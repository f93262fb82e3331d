import Testbed.Proofs.Connection.Serve
import Mathlib.Data.List.DropRight
import Mathlib.Logic.Relation

/-!
# Whitespace that means nothing

ASCII whitespace at the end of a line and lines of nothing else are the driver's to use: a
stream is served for its *requests* (`requests`), the lines that are not blank, each without
the whitespace at its end. Two streams that differ by such whitespace (`Alike`) have the same
requests, and so they are answered alike and leave the same state (`padding_is_ignored`).

Where the connection breaks instead of being closed, what follows the last line feed was never
a line: `readable` is what of a stream there is to be read, and `Source.lines_of_not_cut` the
lines that are read of it.
-/

namespace Testbed

/-- What is left of a list after dropping from its end does not end with what is dropped. -/
theorem eq_false_of_mem_getLast?_rdropWhile {α : Type} {p : α → Bool} {l : List α} {x : α}
    (hx : x ∈ (l.rdropWhile p).getLast?) : p x = false := by
  have hlast := List.head?_dropWhile_not p l.reverse
  rw [List.rdropWhile, List.getLast?_reverse, Option.mem_def] at hx
  rw [hx] at hlast
  simpa using hlast

namespace Bytes

/-! ## Whitespace at the end -/

/-- Whether a stream is ASCII whitespace that ends no line. -/
def isPadding (pad : Bytes) : Bool := pad.all fun b => isAsciiSpace b && b != lineFeed

variable {pad b : Bytes}

theorem isBlank_of_isPadding (h : isPadding pad = true) : isBlank pad = true :=
  List.all_eq_true.2 fun x hx => (Bool.and_eq_true_iff.1 (List.all_eq_true.1 h x hx)).1

theorem lineFeed_not_mem_of_isPadding (h : isPadding pad = true) : lineFeed ∉ pad := fun hx =>
  absurd (List.all_eq_true.1 h lineFeed hx) (by decide)

theorem trimEnd_append (b : Bytes) {w : Bytes} (h : isBlank w = true) :
    trimEnd (b ++ w) = trimEnd b := by
  have hw : ∀ x ∈ w.reverse, isAsciiSpace x = true := fun x hx =>
    List.all_eq_true.1 h x (List.mem_reverse.1 hx)
  rw [trimEnd, List.reverse_append, List.dropWhile_append_of_pos hw, trimEnd]

theorem trimEnd_trimEnd (b : Bytes) : trimEnd (trimEnd b) = trimEnd b :=
  List.rdropWhile_idempotent _ _

/-- What is trimmed is blank. -/
theorem exists_eq_trimEnd_append (b : Bytes) : ∃ w, b = trimEnd b ++ w ∧ isBlank w = true :=
  ⟨b.rtakeWhile isAsciiSpace, List.rdropWhile_append_rtakeWhile.symm,
    List.all_eq_true.2 fun _ hx => List.mem_rtakeWhile_imp hx⟩

theorem isBlank_append (b w : Bytes) : isBlank (b ++ w) = (isBlank b && isBlank w) :=
  List.all_append

theorem isBlank_trimEnd (b : Bytes) : isBlank (trimEnd b) = isBlank b := by
  obtain ⟨w, hb, hw⟩ := exists_eq_trimEnd_append b
  conv_rhs => rw [hb, isBlank_append, hw, Bool.and_true]

/-! ## Whole lines -/

/-- Whether a stream is nothing, or ends with a line: what follows it begins a line. -/
def AtLineStart (b : Bytes) : Prop := ∀ x ∈ b.getLast?, x = lineFeed

/-- A stream up to its last line feed. -/
def wholeLines (b : Bytes) : Bytes := b.rdropWhile (· != lineFeed)

variable {whole l : Bytes}

theorem AtLineStart.append (hw : AtLineStart whole) (hb : AtLineStart b) :
    AtLineStart (whole ++ b) := by
  intro x hx
  rw [List.getLast?_append] at hx
  cases hlast : b.getLast? with
  | none => exact hw x (by simpa [hlast] using hx)
  | some y => exact hb x (by simpa [hlast] using hx)

theorem atLineStart_nil : AtLineStart [] := by simp [AtLineStart]

theorem atLineStart_append_lineFeed (l : Bytes) : AtLineStart (l ++ [lineFeed]) := by
  simp [AtLineStart]

theorem atLineStart_wholeLines (b : Bytes) : AtLineStart (wholeLines b) := by
  intro x hx
  have hlast := eq_false_of_mem_getLast?_rdropWhile hx
  simpa using hlast

/-- A stream is whole lines and the beginning of another. -/
theorem exists_eq_wholeLines_append (b : Bytes) : ∃ l, b = wholeLines b ++ l ∧ lineFeed ∉ l :=
  ⟨b.rtakeWhile (· != lineFeed), List.rdropWhile_append_rtakeWhile.symm, fun h =>
    absurd (List.mem_rtakeWhile_imp h) (by simp)⟩

theorem wholeLines_append_of_not_mem (hw : AtLineStart whole) (hl : lineFeed ∉ l) :
    wholeLines (whole ++ l) = whole := by
  have hdrop : ∀ x ∈ l.reverse, (x != lineFeed) = true := by
    intro x hx
    have hne : x ≠ lineFeed := fun heq => hl (heq ▸ List.mem_reverse.1 hx)
    simpa using hne
  rw [wholeLines, List.rdropWhile, List.reverse_append, List.dropWhile_append_of_pos hdrop]
  refine List.rdropWhile_eq_self_iff.2 fun hne => ?_
  have hlast := hw _ (List.getLast?_eq_some_getLast hne)
  simp [hlast]

theorem wholeLines_append (hw : AtLineStart whole) (b : Bytes) :
    wholeLines (whole ++ b) = whole ++ wholeLines b := by
  obtain ⟨l, hb, hl⟩ := exists_eq_wholeLines_append b
  calc wholeLines (whole ++ b)
      = wholeLines ((whole ++ wholeLines b) ++ l) := by rw [List.append_assoc, ← hb]
    _ = whole ++ wholeLines b :=
      wholeLines_append_of_not_mem (hw.append (atLineStart_wholeLines b)) hl

theorem lines_cons_of_ne {x : UInt8} {r : Bytes} {ls : List Bytes} (hx : x ≠ lineFeed)
    (h : lines r = l :: ls) : lines (x :: r) = (x :: l) :: ls := by
  rw [lines, if_neg hx, h]

/-- The lines of a stream that begins with whole lines. -/
theorem lines_append (hw : AtLineStart whole) (b : Bytes) :
    lines (whole ++ b) = lines whole ++ lines b := by
  induction whole with
  | nil => rfl
  | cons x r ih =>
    cases r with
    | nil =>
      obtain rfl : x = lineFeed := hw x rfl
      exact lines_lineFeed b
    | cons y r =>
      have hr : AtLineStart (y :: r) := fun z hz => hw z (by rwa [List.getLast?_cons_cons])
      have ih := ih hr
      rw [List.cons_append]
      by_cases hx : x = lineFeed
      · rw [hx, lines_lineFeed, lines_lineFeed, ih, List.cons_append]
      · -- The line that `x` begins goes on in what follows it.
        cases hlines : lines (y :: r) with
        | nil => exact absurd (lines_eq_nil_iff.1 hlines) (List.cons_ne_nil y r)
        | cons l ls =>
          rw [hlines] at ih
          rw [lines_cons_of_ne hx ih, lines_cons_of_ne hx hlines]
          rfl

end Bytes

namespace Connection

open Bytes Protocol

variable {σ : Type}

/-! ## Requests -/

/-- The requests among lines: those that are not blank, without the whitespace at their end. -/
def requestsOf (lines : List Bytes) : List Bytes :=
  (lines.filter fun line => !isBlank line).map trimEnd

theorem requestsOf_append (ls ls' : List Bytes) :
    requestsOf (ls ++ ls') = requestsOf ls ++ requestsOf ls' := by
  rw [requestsOf, List.filter_append, List.map_append, requestsOf, requestsOf]

theorem requestsOf_cons (l : Bytes) (ls : List Bytes) :
    requestsOf (l :: ls) = requestsOf [l] ++ requestsOf ls :=
  requestsOf_append [l] ls

/-- A blank line is no request. -/
theorem requestsOf_blank {pad : Bytes} (h : isBlank pad = true) : requestsOf [pad] = [] := by
  rw [requestsOf, List.filter_cons_of_neg (by simp [h]), List.filter_nil, List.map_nil]

/-- Whitespace at the end of a line is no part of the request. -/
theorem requestsOf_padded (l : Bytes) {pad : Bytes} (h : isBlank pad = true) :
    requestsOf [l ++ pad] = requestsOf [l] := by
  have hblank : isBlank (l ++ pad) = isBlank l := by rw [isBlank_append, h, Bool.and_true]
  cases hl : isBlank l with
  | true => rw [requestsOf_blank hl, requestsOf_blank (hblank.trans hl)]
  | false =>
    rw [requestsOf, requestsOf, List.filter_cons_of_pos (by simp [hblank, hl]),
      List.filter_cons_of_pos (by simp [hl])]
    simp [trimEnd_append l h]

/-- The line that the end of the stream ends counts if it is not empty, and it is no request
    if it is. -/
theorem requestsOf_lines_of_not_mem {l : Bytes} (hl : lineFeed ∉ l) :
    requestsOf (lines l) = requestsOf [l] := by
  rw [lines_of_not_mem hl]
  split
  case isTrue h =>
    rw [h]
    rfl
  case isFalse => rfl

/-- What of a stream there is to be read: all of it if the connection is closed, the lines that
    were ended if it breaks. -/
def readable : Ending → Bytes → Bytes
  | .closed, stream => stream
  | .failed _, stream => wholeLines stream

/-- The requests of a stream. -/
def requests (ending : Ending) (stream : Bytes) : List Bytes :=
  requestsOf (lines (readable ending stream))

theorem readable_append {whole : Bytes} (hw : AtLineStart whole) (ending : Ending) (b : Bytes) :
    readable ending (whole ++ b) = whole ++ readable ending b := by
  cases ending with
  | closed => rfl
  | failed cause => exact wholeLines_append hw b

theorem requests_append {whole : Bytes} (hw : AtLineStart whole) (ending : Ending) (b : Bytes) :
    requests ending (whole ++ b) = requestsOf (lines whole) ++ requests ending b := by
  rw [requests, readable_append hw, lines_append hw, requestsOf_append, requests]

/-- A line that is ended is read however the connection ends. -/
theorem requests_line {l : Bytes} (hl : lineFeed ∉ l) (ending : Ending) (after : Bytes) :
    requests ending (l ++ lineFeed :: after) = requestsOf [l] ++ requests ending after := by
  have hlines : lines (l ++ [lineFeed]) = [l] := lines_append_lineFeed hl []
  rw [List.append_cons, requests_append (atLineStart_append_lineFeed l), hlines]

/-! ## Padding -/

/-- The second stream is the first with whitespace that means nothing: at the end of a line, or
    as a line of its own. -/
inductive Pads : Ending → Bytes → Bytes → Prop
  /-- Whitespace directly before the line feed of a line. -/
  | beforeLineFeed {ending : Ending} (before pad after : Bytes) : isPadding pad = true →
      Pads ending (before ++ lineFeed :: after) (before ++ pad ++ lineFeed :: after)
  /-- A blank line before a line, or at the end. -/
  | blankLine {ending : Ending} (before pad after : Bytes) : AtLineStart before →
      isPadding pad = true → Pads ending (before ++ after) (before ++ pad ++ lineFeed :: after)
  /-- Whitespace at the end of the stream. -/
  | atEnd {ending : Ending} (stream pad : Bytes) : isPadding pad = true →
      Pads ending stream (stream ++ pad)
  /-- A blank line after a line that the end of the stream ends. -/
  | afterEnd (stream pad : Bytes) : isPadding pad = true →
      Pads .closed stream (stream ++ lineFeed :: pad)

/-- Two streams differ by whitespace that means nothing. -/
def Alike (ending : Ending) : Bytes → Bytes → Prop := Relation.EqvGen (Pads ending)

theorem Pads.requests_eq {ending : Ending} {s s' : Bytes} (h : Pads ending s s') :
    requests ending s = requests ending s' := by
  cases h with
  | beforeLineFeed before pad after hpad =>
    obtain ⟨l, hbefore, hl⟩ := exists_eq_wholeLines_append before
    have hpadded : lineFeed ∉ l ++ pad := by simp [hl, lineFeed_not_mem_of_isPadding hpad]
    rw [hbefore, List.append_assoc, List.append_assoc, List.append_assoc, ← List.append_assoc l,
      requests_append (atLineStart_wholeLines before), requests_line hl,
      requests_append (atLineStart_wholeLines before), requests_line hpadded,
      requestsOf_padded l (isBlank_of_isPadding hpad)]
  | blankLine before pad after hbefore hpad =>
    rw [List.append_assoc, requests_append hbefore, requests_append hbefore,
      requests_line (lineFeed_not_mem_of_isPadding hpad),
      requestsOf_blank (isBlank_of_isPadding hpad), List.nil_append]
  | atEnd _ pad hpad =>
    obtain ⟨l, hs, hl⟩ := exists_eq_wholeLines_append s
    have hpadded : lineFeed ∉ l ++ pad := by simp [hl, lineFeed_not_mem_of_isPadding hpad]
    rw [hs, List.append_assoc, requests_append (atLineStart_wholeLines s),
      requests_append (atLineStart_wholeLines s)]
    congr 1
    cases ending with
    | closed =>
      rw [requests, readable, requestsOf_lines_of_not_mem hl, requests, readable,
        requestsOf_lines_of_not_mem hpadded, requestsOf_padded l (isBlank_of_isPadding hpad)]
    | failed cause =>
      -- What follows the last line feed is not read.
      have hnone : ∀ l, lineFeed ∉ l → wholeLines l = [] := fun l hl =>
        wholeLines_append_of_not_mem atLineStart_nil hl
      rw [requests, readable, hnone l hl, requests, readable, hnone _ hpadded]
  | afterEnd _ pad hpad =>
    obtain ⟨l, hs, hl⟩ := exists_eq_wholeLines_append s
    have hpadding : requests .closed pad = [] := by
      rw [requests, readable, requestsOf_lines_of_not_mem (lineFeed_not_mem_of_isPadding hpad),
        requestsOf_blank (isBlank_of_isPadding hpad)]
    rw [hs, List.append_assoc, requests_append (atLineStart_wholeLines s),
      requests_append (atLineStart_wholeLines s), requests_line hl, hpadding, List.append_nil,
      requests, readable, requestsOf_lines_of_not_mem hl]

theorem Alike.requests_eq {ending : Ending} {s s' : Bytes} (h : Alike ending s s') :
    requests ending s = requests ending s' := by
  induction h with
  | rel s s' h => exact h.requests_eq
  | refl s => rfl
  | symm s s' _ ih => exact ih.symm
  | trans s s' s'' _ _ ih ih' => exact ih.trans ih'

/-! ## Serving -/

theorem parse_append (line : Bytes) {w : Bytes} (h : isBlank w = true) :
    Request.parse (line ++ w) = Request.parse line := by
  rw [Request.parse, Request.parse, trimEnd_append line h]

theorem serveLine_trimEnd (line : Bytes) (d : Dispatcher σ) :
    serveLine (trimEnd line) d = serveLine line d := by
  rw [serveLine, serveLine, Request.parse, trimEnd_trimEnd, ← Request.parse]

/-- Lines are served for their requests. -/
theorem serveLines_requestsOf (sink : Sink) (lines : List Bytes) (more : List LineRead)
    (d : Dispatcher σ) :
    serveLines sink (lines.map .complete ++ more) d =
      serveLines sink ((requestsOf lines).map .complete ++ more) d := by
  induction lines generalizing d with
  | nil => rfl
  | cons line lines ih =>
    cases hb : isBlank line with
    | true =>
      rw [requestsOf_cons, requestsOf_blank hb, List.nil_append, ← ih]
      simp only [List.map_cons, List.cons_append, serveLines, hb, if_true]
    | false =>
      have hrequest : requestsOf [line] = [trimEnd line] := by
        rw [requestsOf, List.filter_cons_of_pos (by simp [hb])]
        rfl
      rw [requestsOf_cons, hrequest]
      simp only [List.map_cons, List.cons_append, List.nil_append, serveLines, isBlank_trimEnd,
        hb, serveLine_trimEnd, ih]

/-! ## Reading -/

/-- What is read after the last line. -/
def Ending.read : Ending → LineRead
  | .closed => .finished
  | .failed cause => .failed cause

namespace Source

variable {s left : Source} {ls : List Bytes} {last : LineRead}

/-- Repeated calls read the lines that are to be read, where no line is too long. -/
theorem Reads.eq_readable (h : s.Reads ls last left) (hcut : isCut s.stream = false) :
    ls = Bytes.lines (readable s.ending s.stream) ∧ last = s.ending.read := by
  induction h with
  | @stop s hstop =>
    have hframe := frame_readLine s
    cases hread : s.readLine.1 with
    | complete l => exact absurd hread (hstop l)
    | finished =>
      obtain ⟨hc, hs, -⟩ := frame_finished_iff.1 (hread ▸ hframe)
      rw [hc, hs]
      exact ⟨rfl, rfl⟩
    | tooLarge b =>
      obtain ⟨l, ls, hlines, hlong, -⟩ := lines_stream_of_tooLarge hread
      exact absurd hcut (by simp [isCut, hlines, hlong])
    | failed cause =>
      -- What follows the last line feed is no line.
      obtain ⟨hf, hs, -⟩ := frame_failed_iff.1 (hread ▸ hframe)
      have hnone : wholeLines s.stream = [] := wholeLines_append_of_not_mem atLineStart_nil hs
      rw [hf, readable, hnone]
      exact ⟨rfl, rfl⟩
  | @line s left l ls last hread _ ih =>
    rw [isCut, lines_stream_of_complete hread, List.any_cons, Bool.or_eq_false_iff] at hcut
    obtain ⟨rfl, rfl⟩ := ih hcut.2
    refine ⟨?_, congrArg Ending.read (ending_readLine s)⟩
    rw [ending_readLine]
    obtain ⟨hl, -, hs | ⟨hc, -⟩⟩ := readLine_complete hread
    · rw [hs, List.append_cons, readable_append (atLineStart_append_lineFeed l), ← List.append_cons,
        lines_append_lineFeed hl]
    · rw [hc]
      exact (lines_stream_of_complete hread).symm

/-- From a connection on which no line is too long what is readable is read, line by line. -/
theorem lines_of_not_cut (ending : Ending) {chunks : List Bytes}
    (hcut : isCut chunks.flatten = false) :
    lines ⟨chunks, ending⟩ =
      (Bytes.lines (readable ending chunks.flatten)).map .complete ++ [ending.read] := by
  obtain ⟨ls, last, left, hreads, hlines⟩ := exists_reads_lines ⟨chunks, ending⟩
  obtain ⟨rfl, rfl⟩ := hreads.eq_readable hcut
  exact hlines

end Source

/-- A connection on which no line is too long is served for its requests. -/
theorem serve_eq_requests (ending : Ending) (sink : Sink) {chunks : List Bytes}
    (hcut : isCut chunks.flatten = false) (d : Dispatcher σ) :
    serve ⟨chunks, ending⟩ sink d =
      serveLines sink ((requests ending chunks.flatten).map .complete ++ [ending.read]) d := by
  rw [serve, Source.lines_of_not_cut ending hcut, serveLines_requestsOf, requests]

/-- Whitespace at the end of a line does not change what the line is read as, its faults and
    their positions included. And two streams that differ by whitespace before line feeds and
    by blank lines, none of their lines too long, are answered alike and leave the same state,
    in whatever chunks they come, whether the connection is closed or breaks after them, and
    whether or not writing works. -/
theorem padding_is_ignored :
    (∀ line w, isBlank w = true → Request.parse (line ++ w) = Request.parse line) ∧
    ∀ (σ : Type) (d : Dispatcher σ) (sink : Sink) (ending : Ending) (chunks chunks' : List Bytes),
      Alike ending chunks.flatten chunks'.flatten →
      isCut chunks.flatten = false → isCut chunks'.flatten = false →
      serve ⟨chunks, ending⟩ sink d = serve ⟨chunks', ending⟩ sink d := by
  refine ⟨fun line w hw => parse_append line hw, fun σ d sink ending chunks chunks' h hc hc' => ?_⟩
  rw [serve_eq_requests ending sink hc, serve_eq_requests ending sink hc', h.requests_eq]

/-- A request whose line ends with a carriage return and a line feed, and is followed by a line
    of a tab, is served as with the line feed alone. -/
theorem carriage_return_is_ignored :
    let line := Bytes.ofString "\x7b\"method\":\"flushMemory\"\x7d"
    let unix := line ++ [lineFeed]
    let dos := line ++ [13, lineFeed, 9, lineFeed]
    let d : Dispatcher Unit := Dispatcher.build [] { state := () }
    isBlank [13] = true ∧ Request.parse (line ++ [13]) = Request.parse line ∧
      Alike .closed [unix].flatten [[], dos].flatten ∧ isCut [unix].flatten = false ∧
      isCut [[], dos].flatten = false ∧
      serve ⟨[unix], .closed⟩ none d = serve ⟨[[], dos], .closed⟩ none d := by
  intro line unix dos d
  have hreturn : isBlank [13] = true := rfl
  have halike : Alike .closed [unix].flatten [[], dos].flatten :=
    .trans _ (line ++ [13] ++ lineFeed :: []) _ (.rel _ _ (.beforeLineFeed line [13] [] rfl))
      (.rel _ _ (.blankLine _ [9] [] (atLineStart_append_lineFeed (line ++ [13])) rfl))
  have hunix : isCut [unix].flatten = false := by decide +kernel
  have hdos : isCut [[], dos].flatten = false := by decide +kernel
  exact ⟨hreturn, padding_is_ignored.1 line [13] hreturn, halike, hunix, hdos,
    padding_is_ignored.2 Unit d none .closed [unix] [[], dos] halike hunix hdos⟩

end Connection

end Testbed
