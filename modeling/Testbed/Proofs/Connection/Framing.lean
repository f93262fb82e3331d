import Testbed.Connection.Line
import Mathlib.Data.List.Basic

/-!
# The octets of a line

A call of the reader takes a line off what is left of a stream or, where the line is too long, as
many octets as show that it is. What it reads and what it leaves is determined by the octets and
by how they end (`Frame`), and the chunks in which they come play no part.

* `frame_takeLine`: reading from chunks is reading of the stream;
* `frame_iff`: the three ways in which a call goes, of which a stream admits one
  (`Frame.unique`);
* `Source.Reads`: calls repeated until one reads no line;
* `Source.reading_loses_nothing`: each call in terms of the stream, and the stream in terms of
  the lines.
-/

namespace Testbed.Connection

open Bytes

/-- What is read of the beginning of a line at the end of the stream. -/
def Ending.rest : Ending → Bytes → LineRead
  | .failed cause, _ => .failed cause
  | .closed, l => if l = [] then .finished else .complete l

/-- What a reader that has begun a line, and has room for so many octets more, reads of a stream,
    and what it leaves of it. -/
inductive Frame (ending : Ending) (room : Nat) (begun : Bytes) : Bytes → LineRead → Bytes → Prop
  /-- The line, which a line feed ends. -/
  | line {l : Bytes} (left : Bytes) : lineFeed ∉ l → l.length < room →
      Frame ending room begun (l ++ lineFeed :: left) (.complete (begun ++ l)) left
  /-- What there is of the line before the stream ends. -/
  | rest {l : Bytes} : lineFeed ∉ l → l.length < room →
      Frame ending room begun l (ending.rest (begun ++ l)) []
  /-- As much of the line as there is room for. -/
  | tooLarge {l : Bytes} (left : Bytes) : lineFeed ∉ l → l.length = room →
      Frame ending room begun (l ++ left) (.tooLarge (begun ++ l)) left

section

variable {ending : Ending} {room : Nat} {begun stream left left' : Bytes} {read read' : LineRead}

/-! ## Reading from chunks -/

theorem Frame.atLineFeed (left : Bytes) :
    Frame ending (room + 1) begun (lineFeed :: left) (.complete begun) left := by
  have h : Frame ending (room + 1) begun ([] ++ lineFeed :: left) (.complete (begun ++ [])) left :=
    .line left List.not_mem_nil (Nat.succ_pos room)
  rwa [List.append_nil] at h

theorem Frame.atEnd : Frame ending (room + 1) begun [] (ending.rest begun) [] := by
  have h : Frame ending (room + 1) begun [] (ending.rest (begun ++ [])) [] :=
    .rest List.not_mem_nil (Nat.succ_pos room)
  rwa [List.append_nil] at h

theorem Frame.noRoom (stream : Bytes) : Frame ending 0 begun stream (.tooLarge begun) stream := by
  have h : Frame ending 0 begun ([] ++ stream) (.tooLarge (begun ++ [])) stream :=
    .tooLarge stream List.not_mem_nil rfl
  rwa [List.append_nil] at h

/-- An octet that is no line feed belongs to the line. -/
theorem Frame.cons {b : UInt8} (hb : b ≠ lineFeed)
    (h : Frame ending room (begun ++ [b]) stream read left) :
    Frame ending (room + 1) begun (b :: stream) read left := by
  have hmem : ∀ {l : Bytes}, lineFeed ∉ l → lineFeed ∉ b :: l := fun hl =>
    List.not_mem_cons_of_ne_of_not_mem hb.symm hl
  cases h with
  | line _ hl hroom =>
    rw [List.append_assoc]
    exact .line left (hmem hl) (Nat.succ_lt_succ hroom)
  | rest hl hroom =>
    rw [List.append_assoc]
    exact .rest (hmem hl) (Nat.succ_lt_succ hroom)
  | tooLarge _ hl hroom =>
    rw [List.append_assoc]
    exact .tooLarge left (hmem hl) (congrArg Nat.succ hroom)

/-- What is found in a chunk is read of the stream that begins with it; where all of the chunk
    belongs to the line, so is what is read of the stream after it. -/
theorem frame_takeChunk (ending : Ending) (room : Nat) (read chunk more : Bytes) :
    match takeChunk room read chunk with
    | .line read' rest =>
      Frame ending room read.reverse (chunk ++ more) (.complete read'.reverse) (rest ++ more)
    | .full read' rest =>
      Frame ending room read.reverse (chunk ++ more) (.tooLarge read'.reverse) (rest ++ more)
    | .all room' read' => ∀ taken left, Frame ending room' read'.reverse more taken left →
      Frame ending room read.reverse (chunk ++ more) taken left := by
  fun_induction takeChunk room read chunk with
  | case1 room read => exact fun _ _ h => h
  | case2 read b r => exact .noRoom _
  | case3 room read r => exact .atLineFeed _
  | case4 room read b r hb ih =>
    -- The octet is taken first, whatever is found in the chunk after it.
    rw [List.reverse_cons] at ih
    cases htaken : takeChunk room (b :: read) r with
    | line read' rest =>
      rw [htaken] at ih
      exact .cons hb ih
    | full read' rest =>
      rw [htaken] at ih
      exact .cons hb ih
    | all room' read' =>
      rw [htaken] at ih
      exact fun taken left h => .cons hb (ih taken left h)

theorem takeLine_nil (ending : Ending) (room : Nat) (read : Bytes) :
    takeLine ending (room + 1) read [] = (ending.rest read.reverse, ⟨[], ending⟩) := by
  cases ending with
  | failed cause => rfl
  | closed =>
    cases read with
    | nil => rfl
    | cons b read => simp [takeLine, Ending.rest]

/-- Reading a line from chunks is reading it of the stream, however that is cut. -/
theorem frame_takeLine (ending : Ending) (room : Nat) (read : Bytes) (chunks : List Bytes) :
    Frame ending room read.reverse chunks.flatten (takeLine ending room read chunks).1
      (takeLine ending room read chunks).2.chunks.flatten := by
  induction chunks generalizing room read with
  | nil =>
    cases room with
    | zero => exact .noRoom _
    | succ room =>
      rw [takeLine_nil]
      exact .atEnd
  | cons chunk chunks ih =>
    cases room with
    | zero => exact .noRoom _
    | succ room =>
      have hchunk := frame_takeChunk ending (room + 1) read chunk chunks.flatten
      rw [takeLine, List.flatten_cons]
      cases htaken : takeChunk (room + 1) read chunk with
      | line read' rest =>
        rw [htaken] at hchunk
        exact hchunk
      | full read' rest =>
        rw [htaken] at hchunk
        exact hchunk
      | all room' read' =>
        rw [htaken] at hchunk
        exact hchunk _ _ (ih room' read')

theorem ending_takeLine (ending : Ending) (room : Nat) (read : Bytes) (chunks : List Bytes) :
    (takeLine ending room read chunks).2.ending = ending := by
  induction chunks generalizing room read with
  | nil =>
    cases room with
    | zero => rfl
    | succ room => rw [takeLine_nil]
  | cons chunk chunks ih =>
    cases room with
    | zero => rfl
    | succ room =>
      rw [takeLine]
      cases takeChunk (room + 1) read chunk with
      | line | full => rfl
      | all room read => exact ih room read

/-! ## One way for each stream -/

/-- A piece without a line feed does not reach beyond the first line feed. -/
theorem lineFeed_mem_of_append_eq {l l' : Bytes} (h : l ++ lineFeed :: left = l' ++ left')
    (hlt : l.length < l'.length) : lineFeed ∈ l' := by
  have hat : (l' ++ left')[l.length]? = some lineFeed := by rw [← h]; simp
  rw [List.getElem?_append_left hlt] at hat
  exact List.mem_of_getElem? hat

/-- What is read, and what is left, is determined by the stream. -/
theorem Frame.unique (h : Frame ending room begun stream read left)
    (h' : Frame ending room begun stream read' left') : read = read' ∧ left = left' := by
  generalize hs : stream = stream' at h'
  cases h with
  | @line l left hl hroom =>
    cases h' with
    | @line l' left' hl' hroom' =>
      have hlen : l.length = l'.length := by
        rcases Nat.lt_trichotomy l.length l'.length with hlt | heq | hlt
        · exact absurd (lineFeed_mem_of_append_eq hs hlt) hl'
        · exact heq
        · exact absurd (lineFeed_mem_of_append_eq hs.symm hlt) hl
      obtain ⟨rfl, htail⟩ := List.append_inj hs hlen
      exact ⟨rfl, (List.cons.inj htail).2⟩
    | rest hl' hroom' => exact absurd (hs ▸ by simp) hl'
    | tooLarge left' hl' hroom' =>
      exact absurd (lineFeed_mem_of_append_eq hs (hroom' ▸ hroom)) hl'
  | @rest l hl hroom =>
    cases h' with
    | line left' hl' hroom' => exact absurd (hs ▸ by simp) hl
    | rest hl' hroom' => exact ⟨by rw [hs], rfl⟩
    | tooLarge left' hl' hroom' =>
      rw [hs, List.length_append] at hroom
      omega
  | @tooLarge l left hl hroom =>
    cases h' with
    | line left' hl' hroom' =>
      exact absurd (lineFeed_mem_of_append_eq hs.symm (hroom ▸ hroom')) hl
    | rest hl' hroom' =>
      rw [← hs, List.length_append] at hroom'
      omega
    | tooLarge left' hl' hroom' =>
      obtain ⟨rfl, rfl⟩ := List.append_inj hs (hroom.trans hroom'.symm)
      exact ⟨rfl, rfl⟩

/-! ## What is read of which stream -/

variable {n : Nat} {l : Bytes} {cause : Os.Trouble}

/-- A reader that has begun no line, and has room for `n` octets and a line feed, comes to the
    line feed, to the end of the stream, or to the end of the room. -/
theorem frame_iff : Frame ending (n + 1) [] stream read left ↔
    (∃ l, lineFeed ∉ l ∧ l.length ≤ n ∧ stream = l ++ lineFeed :: left ∧ read = .complete l) ∨
    (lineFeed ∉ stream ∧ stream.length ≤ n ∧ left = [] ∧ read = ending.rest stream) ∨
    ∃ l, lineFeed ∉ l ∧ l.length = n + 1 ∧ stream = l ++ left ∧ read = .tooLarge l := by
  constructor
  · intro h
    cases h with
    | line _ hl hroom => exact .inl ⟨_, hl, Nat.le_of_lt_succ hroom, rfl, rfl⟩
    | rest hl hroom => exact .inr (.inl ⟨hl, Nat.le_of_lt_succ hroom, rfl, rfl⟩)
    | tooLarge _ hl hroom => exact .inr (.inr ⟨_, hl, hroom, rfl, rfl⟩)
  · rintro (⟨l, hl, hroom, rfl, rfl⟩ | ⟨hl, hroom, rfl, rfl⟩ | ⟨l, hl, hroom, rfl, rfl⟩)
    · exact .line left hl (Nat.lt_succ_of_le hroom)
    · exact .rest hl (Nat.lt_succ_of_le hroom)
    · exact .tooLarge left hl hroom

theorem frame_complete_iff : Frame ending (n + 1) [] stream (.complete l) left ↔
    lineFeed ∉ l ∧ l.length ≤ n ∧ (stream = l ++ lineFeed :: left ∨
      ending = .closed ∧ l ≠ [] ∧ stream = l ∧ left = []) := by
  rw [frame_iff]
  cases ending <;> grind [Ending.rest]

theorem frame_finished_iff : Frame ending (n + 1) [] stream .finished left ↔
    ending = .closed ∧ stream = [] ∧ left = [] := by
  rw [frame_iff]
  cases ending <;> grind [Ending.rest]

theorem frame_tooLarge_iff : Frame ending (n + 1) [] stream (.tooLarge l) left ↔
    lineFeed ∉ l ∧ l.length = n + 1 ∧ stream = l ++ left := by
  rw [frame_iff]
  cases ending <;> grind [Ending.rest]

theorem frame_failed_iff : Frame ending (n + 1) [] stream (.failed cause) left ↔
    ending = .failed cause ∧ lineFeed ∉ stream ∧ stream.length ≤ n ∧ left = [] := by
  rw [frame_iff]
  cases ending <;> grind [Ending.rest]

end

namespace Source

/-- The octets that are left to read. -/
def stream (s : Source) : Bytes := s.chunks.flatten

/-- What a call reads, and the octets that it leaves. -/
def call (s : Source) : LineRead × Bytes := (s.readLine.1, s.readLine.2.stream)

/-- Calls repeated until one reads no line: the lines, what is read last, and what is left. -/
inductive Reads : Source → List Bytes → LineRead → Source → Prop
  /-- The call that reads no line. -/
  | stop {s : Source} : (∀ l, s.readLine.1 ≠ .complete l) → Reads s [] s.readLine.1 s.readLine.2
  /-- A call that reads a line, and those after it. -/
  | line {s left : Source} {l : Bytes} {ls : List Bytes} {last : LineRead} :
      s.readLine.1 = .complete l → Reads s.readLine.2 ls last left → Reads s (l :: ls) last left

variable {s left : Source} {read last : LineRead} {l rest : Bytes} {ls : List Bytes}

theorem frame_readLine (s : Source) :
    Frame s.ending (lineLimit + 1) [] s.stream s.readLine.1 s.readLine.2.stream :=
  frame_takeLine s.ending (lineLimit + 1) [] s.chunks

theorem ending_readLine (s : Source) : s.readLine.2.ending = s.ending :=
  ending_takeLine s.ending (lineLimit + 1) [] s.chunks

theorem call_eq_iff :
    s.call = (read, rest) ↔ Frame s.ending (lineLimit + 1) [] s.stream read rest := by
  constructor
  · intro h
    obtain ⟨rfl, rfl⟩ := Prod.mk.inj h
    exact frame_readLine s
  · intro h
    obtain ⟨rfl, rfl⟩ := h.unique (frame_readLine s)
    rfl

theorem readLine_complete (h : s.readLine.1 = .complete l) :
    lineFeed ∉ l ∧ l.length ≤ lineLimit ∧ (s.stream = l ++ lineFeed :: s.readLine.2.stream ∨
      s.ending = .closed ∧ l ≠ [] ∧ s.stream = l ∧ s.readLine.2.stream = []) :=
  frame_complete_iff.1 (h ▸ frame_readLine s)

theorem length_readLine_lt (h : s.readLine.1 = .complete l) :
    s.readLine.2.stream.length < s.stream.length := by
  obtain ⟨-, -, hs | ⟨-, hne, hs, hnil⟩⟩ := readLine_complete h
  · rw [hs, List.length_append, List.length_cons]
    omega
  · rw [hs, hnil]
    exact List.length_pos_of_ne_nil hne

/-! ## Repeated calls -/

/-- The lines that are listed are those of repeated calls. -/
theorem exists_reads_readLines (fuel : Nat) (s : Source) (hfuel : s.stream.length < fuel) :
    ∃ ls last left, s.Reads ls last left ∧ readLines fuel s = ls.map .complete ++ [last] := by
  induction fuel generalizing s with
  | zero => exact absurd hfuel (Nat.not_lt_zero _)
  | succ fuel ih =>
    cases hread : s.readLine with
    | mk read next =>
      cases read with
      | complete l =>
        have hl : s.readLine.1 = .complete l := congrArg Prod.fst hread
        have hshort : next.stream.length < fuel := by
          have hlt := length_readLine_lt hl
          rw [hread] at hlt
          exact Nat.lt_of_lt_of_le hlt (Nat.le_of_lt_succ hfuel)
        obtain ⟨ls, last, left, hreads, hlines⟩ := ih next hshort
        refine ⟨l :: ls, last, left, .line hl (by rwa [hread]), ?_⟩
        rw [readLines, hread]
        exact congrArg (LineRead.complete l :: ·) hlines
      | tooLarge | finished | failed =>
        refine ⟨[], _, _, .stop (by simp [hread]), ?_⟩
        rw [readLines, hread]
        rfl

theorem exists_reads_lines (s : Source) :
    ∃ ls last left, s.Reads ls last left ∧ s.lines = ls.map .complete ++ [last] :=
  exists_reads_readLines _ s (Nat.lt_succ_self _)

theorem Reads.forall_mem (h : s.Reads ls last left) :
    ∀ l ∈ ls, lineFeed ∉ l ∧ l.length ≤ lineLimit := by
  induction h with
  | stop => exact fun l hl => absurd hl List.not_mem_nil
  | line hread _ ih =>
    obtain ⟨hl, hlen, _⟩ := readLine_complete hread
    exact List.forall_mem_cons.2 ⟨⟨hl, hlen⟩, ih⟩

/-- At the end of the stream there is nothing more to read. -/
theorem Reads.of_stream_eq_nil (h : s.Reads ls last left) (hc : s.ending = .closed)
    (hs : s.stream = []) : ls = [] ∧ last = .finished := by
  have hcall : s.call = (.finished, []) := call_eq_iff.2 (frame_finished_iff.2 ⟨hc, hs, rfl⟩)
  have hfinished : s.readLine.1 = .finished := congrArg Prod.fst hcall
  cases h with
  | stop => exact ⟨rfl, hfinished⟩
  | line hread => exact absurd (hread.symm.trans hfinished) (by simp)

/-- A stream that is read to its end is its lines joined by line feeds, up to a last one. -/
theorem Reads.joined_of_finished (h : s.Reads ls last left) (hlast : last = .finished) :
    s.ending = .closed ∧ left.stream = [] ∧
      (s.stream = [lineFeed].intercalate ls ∧ [] ∉ ls.getLast? ∨
        ls ≠ [] ∧ s.stream = [lineFeed].intercalate ls ++ [lineFeed]) := by
  induction h with
  | @stop s _ =>
    obtain ⟨hc, hs, hleft⟩ := frame_finished_iff.1 (hlast ▸ frame_readLine s)
    exact ⟨hc, hleft, .inl ⟨hs, by simp⟩⟩
  | @line s left l ls last hread hrest ih =>
    obtain ⟨hc, hleft, hjoined⟩ := ih hlast
    rw [ending_readLine] at hc
    refine ⟨hc, hleft, ?_⟩
    obtain ⟨-, -, hs | ⟨-, hne, hs, hnil⟩⟩ := readLine_complete hread
    · rw [hs]
      cases ls with
      | nil =>
        obtain ⟨hnil, _⟩ | ⟨hne, _⟩ := hjoined
        · exact .inr ⟨by simp, by simp [hnil]⟩
        · exact absurd rfl hne
      | cons l' ls =>
        rw [List.intercalate_cons_cons]
        obtain ⟨hjoined, hlast⟩ | ⟨_, hjoined⟩ := hjoined
        · exact .inl ⟨by simp [hjoined], by simpa using hlast⟩
        · exact .inr ⟨by simp, by simp [hjoined]⟩
    · -- The end of the stream ends the line, so it is the last one, and it is not empty.
      obtain ⟨rfl, -⟩ := hrest.of_stream_eq_nil ((ending_readLine s).trans hc) hnil
      exact .inl ⟨by simp [hs], by simpa using hne.symm⟩

/-- A stream that is not read to its end is the lines, the beginning of another one, joined to
    them by line feeds, and what is left. -/
theorem Reads.joined_of_not_finished (h : s.Reads ls last left) (hlast : last ≠ .finished) :
    ∃ b, lineFeed ∉ b ∧ s.stream = [lineFeed].intercalate (ls ++ [b]) ++ left.stream ∧
      (last = .tooLarge b ∧ b.length = lineLimit + 1 ∨
        ∃ cause, last = .failed cause ∧ s.ending = .failed cause ∧ b.length ≤ lineLimit ∧
          left.stream = []) := by
  induction h with
  | @stop s hstop =>
    have hframe := frame_readLine s
    cases hread : s.readLine.1 with
    | complete l => exact absurd hread (hstop l)
    | finished => exact absurd hread hlast
    | tooLarge b =>
      obtain ⟨hb, hlen, hs⟩ := frame_tooLarge_iff.1 (hread ▸ hframe)
      exact ⟨b, hb, by simpa using hs, .inl ⟨rfl, hlen⟩⟩
    | failed cause =>
      obtain ⟨he, hs, hlen, hleft⟩ := frame_failed_iff.1 (hread ▸ hframe)
      exact ⟨s.stream, hs, by simp [hleft], .inr ⟨cause, rfl, he, hlen, hleft⟩⟩
  | @line s left l ls last hread hrest ih =>
    obtain ⟨b, hb, hjoined, hcase⟩ := ih hlast
    rw [ending_readLine] at hcase
    refine ⟨b, hb, ?_, hcase⟩
    obtain ⟨-, -, hs | ⟨hc, -, -, hnil⟩⟩ := readLine_complete hread
    · rw [hs, hjoined, List.cons_append, List.intercalate_cons_of_ne_nil (by simp)]
      simp
    · exact absurd (hrest.of_stream_eq_nil ((ending_readLine s).trans hc) hnil).2 hlast

/-- What is read of a source, in whatever chunks its octets come. A call reads the octets before
    the next line feed, or all that are left, and takes no more than those and the line feed; of
    a line that is too long it takes one octet more than a line may have. The lines of repeated
    calls, joined by line feeds, are all that was taken, up to a last line feed; the beginning of
    a line that is too long, or in which the connection breaks, is joined to them as well. -/
theorem reading_loses_nothing (s : Source) :
    (∀ rest, s.call = (.finished, rest) ↔ s.ending = .closed ∧ s.stream = [] ∧ rest = []) ∧
    (∀ l rest, s.call = (.complete l, rest) ↔ lineFeed ∉ l ∧ l.length ≤ lineLimit ∧
      (s.stream = l ++ lineFeed :: rest ∨
        s.ending = .closed ∧ l ≠ [] ∧ s.stream = l ∧ rest = [])) ∧
    (∀ b rest, s.call = (.tooLarge b, rest) ↔
      lineFeed ∉ b ∧ b.length = lineLimit + 1 ∧ s.stream = b ++ rest) ∧
    (∀ cause rest, s.call = (.failed cause, rest) ↔ s.ending = .failed cause ∧
      lineFeed ∉ s.stream ∧ s.stream.length ≤ lineLimit ∧ rest = []) ∧
    ∃ ls last left, s.Reads ls last left ∧ s.lines = ls.map .complete ++ [last] ∧
      (∀ l ∈ ls, lineFeed ∉ l ∧ l.length ≤ lineLimit) ∧
      (last = .finished ∧ s.ending = .closed ∧ left.stream = [] ∧
          (s.stream = [lineFeed].intercalate ls ∧ [] ∉ ls.getLast? ∨
            ls ≠ [] ∧ s.stream = [lineFeed].intercalate ls ++ [lineFeed]) ∨
        ∃ b, lineFeed ∉ b ∧ s.stream = [lineFeed].intercalate (ls ++ [b]) ++ left.stream ∧
          (last = .tooLarge b ∧ b.length = lineLimit + 1 ∨
            ∃ cause, last = .failed cause ∧ s.ending = .failed cause ∧ b.length ≤ lineLimit ∧
              left.stream = [])) := by
  refine ⟨fun rest => ?_, fun l rest => ?_, fun b rest => ?_, fun cause rest => ?_, ?_⟩
  · exact call_eq_iff.trans frame_finished_iff
  · exact call_eq_iff.trans frame_complete_iff
  · exact call_eq_iff.trans frame_tooLarge_iff
  · exact call_eq_iff.trans frame_failed_iff
  · obtain ⟨ls, last, left, hreads, hlines⟩ := s.exists_reads_lines
    refine ⟨ls, last, left, hreads, hlines, hreads.forall_mem, ?_⟩
    by_cases hlast : last = .finished
    · exact .inl ⟨hlast, hreads.joined_of_finished hlast⟩
    · exact .inr (hreads.joined_of_not_finished hlast)

/-- A line feed that comes first in a chunk ends the line of the chunk before it. -/
example : lines ⟨[[97], [lineFeed, 98]], .closed⟩ =
    [.complete [97], .complete [98], .finished] := by decide

end Source

end Testbed.Connection
