import Testbed.Endpoint.Basic
import Testbed.Proofs.Endpoint.Host
import Testbed.Proofs.Endpoint.Path

/-!
# Endpoints written and read again

An endpoint is written with two slashes behind its scheme, and what follows them is read as a host.
So an endpoint that was read is read again from what is written of it, but for a socket whose path
has no slash at its start: such a path comes of a URL without slashes, and is a host once they are
written.

* `settled_of_parse`: what is read of a URL has the form in which it is kept;
* `parse_eq_ok_iff`: an endpoint is what is read of a URL;
* `parse_text_tcp`, `parse_text_unix`: what is in that form is read as it is written;
* `parse_text_iff_isRooted`: what has been read is read again just when it is rooted.
-/

namespace Testbed.Endpoint

/-! ## What is read of a URL -/

namespace Url

/-- The host of a URL has the form in which it is kept, and so has a path that starts with a
    slash. -/
structure IsSettled (url : Url) : Prop where
  host : ∀ host ∈ url.host, IsHost host.toList
  path : url.path.toList.head? = some '/' → IsPath url.path.toList

variable {scheme text : String} {s rest : List Char} {url : Url}

/-- A path that is read without a slash at its start has none there when it is encoded. -/
theorem head?_unrooted (hs : s.head? ≠ some '/') :
    ((beforeQuery s).flatMap (encode [])).head? ≠ some '/' := by
  cases s with
  | nil => exact hs
  | cons c s =>
    rw [beforeQuery, List.takeWhile_cons]
    split
    · obtain ⟨d, t, heq, hd⟩ := exists_encode_eq [] c
      rw [List.flatMap_cons, heq, List.cons_append, List.head?_cons]
      obtain rfl | rfl := hd
      · exact hs
      · decide
    · simp

/-- A path behind an authority is empty or settled. -/
theorem pathAfterAuthority_cases (s : List Char) :
    pathAfterAuthority s = [] ∨ IsPath (pathAfterAuthority s) := by
  unfold pathAfterAuthority
  split
  · exact .inl rfl
  · next c r =>
    split
    · exact .inl rfl
    · split
      · next hslash => exact .inr (hslash ▸ isPath_rootedPath r)
      · exact .inr (isPath_rootedPath (c :: r))

/-- Behind two slashes an authority is read, and then a path. -/
theorem readPlain_authority (h : readPlain scheme ('/' :: '/' :: s) = .ok url) :
    ∃ r host port rest, readHostAndPort .plain r = .ok (host, port, rest) ∧
      url = ⟨scheme, if host.isEmpty then none else some (String.ofList host), port,
        String.ofList (pathAfterAuthority rest)⟩ := by
  rw [readPlain] at h
  cases huser : skipUserInfo .plain s with
  | error e => rw [huser] at h; cases h
  | ok user =>
    rw [huser] at h
    dsimp only at h
    cases hauthority : readHostAndPort .plain user.2 with
    | error e => rw [hauthority] at h; cases h
    | ok authority =>
      rw [hauthority] at h
      dsimp only at h
      split at h
      · cases h
      · exact ⟨_, _, _, _, hauthority, (Except.ok.inj h).symm⟩

/-- What is read of a URL whose scheme is not special is settled. -/
theorem settled_of_readPlain (h : readPlain scheme s = .ok url) : url.IsSettled := by
  unfold readPlain at h
  split at h
  · -- Behind two slashes there is an authority.
    obtain ⟨_, host, port, rest, hauthority, rfl⟩ := readPlain_authority h
    refine ⟨fun host' hhost => ?_, fun hroot => ?_⟩
    · obtain ⟨hne, heq⟩ := Option.ite_none_left_eq_some.1 hhost
      rw [← Option.some.inj heq, String.toList_ofList]
      exact isHost_of_readHostAndPort hauthority fun hnil => hne (hnil ▸ rfl)
    · rw [String.toList_ofList] at hroot ⊢
      exact (pathAfterAuthority_cases rest).resolve_left fun hnil => by
        rw [hnil] at hroot
        cases hroot
  · -- Behind one slash there is no host, and the path starts with that slash.
    next r _ =>
    obtain rfl := Except.ok.inj h
    refine ⟨nofun, fun _ => ?_⟩
    rw [String.toList_ofList]
    exact isPath_rootedPath r
  · -- Without a slash the path does not start with one.
    next hslash =>
    obtain rfl := Except.ok.inj h
    refine ⟨nofun, fun hroot => ?_⟩
    rw [String.toList_ofList] at hroot
    refine absurd hroot (head?_unrooted fun hs => ?_)
    obtain ⟨r, rfl⟩ := List.head?_eq_some_iff.1 hs
    exact hslash r rfl

theorem scheme_of_readSpecial (h : readSpecial scheme s = .ok url) : url.scheme = scheme := by
  unfold readSpecial at h
  grind

theorem scheme_of_readFile (h : readFile scheme s = .ok url) : url.scheme = scheme := by
  unfold readFile at h
  grind

/-- What is read of a URL is settled if its scheme is not special. -/
theorem settled_of_parse (h : parse text = .ok url) (hkind : schemeKind url.scheme = .plain) :
    url.IsSettled := by
  rw [parse] at h
  cases hscheme : readScheme (significant text) with
  | none => rw [hscheme] at h; cases h
  | some r =>
    obtain ⟨scheme, rest⟩ := r
    rw [hscheme] at h
    dsimp only at h
    cases hk : schemeKind scheme with
    | plain =>
      rw [hk] at h
      exact settled_of_readPlain h
    | special =>
      rw [hk] at h
      rw [scheme_of_readSpecial h, hk] at hkind
      cases hkind
    | file =>
      rw [hk] at h
      rw [scheme_of_readFile h, hk] at hkind
      cases hkind

end Url

open Url

/-! ## What is read of an endpoint -/

/-- What a URL tells of an endpoint. -/
def IsOf : Endpoint → Url → Prop
  | tcp host port, url =>
    url.scheme = "tcp" ∧ url.host = some host ∧ url.port.map UInt16.ofNat = some port
  | unix path, url => url.scheme = "unix" ∧ url.path = path ∧ path ≠ ""

variable {text host path : String} {port : UInt16} {e e' : Endpoint}

/-- An endpoint is read if a URL is, and tells it. -/
theorem parse_eq_ok_iff : parse text = .ok e ↔ ∃ url, Url.parse text = .ok url ∧ e.IsOf url := by
  rw [parse]
  cases hurl : Url.parse text with
  | error error => simp
  | ok url =>
    simp only [Except.ok.injEq, exists_eq_left']
    by_cases htcp : url.scheme = "tcp"
    · have hunix : url.scheme ≠ "unix" := htcp ▸ by decide
      rw [if_pos htcp]
      cases hhost : url.host <;> cases hport : url.port <;> cases e <;> simp [IsOf, *]
    · rw [if_neg htcp]
      by_cases hunix : url.scheme = "unix"
      · rw [if_pos hunix]
        by_cases hempty : url.path = ""
        · cases e <;> simp [IsOf, hunix, hempty]
        · cases e with
          | tcp => simp [IsOf, hunix, hempty]
          | unix path =>
            simp only [IsOf, hunix, String.isEmpty_iff, hempty, if_false, Except.ok.injEq,
              unix.injEq, true_and]
            exact (and_iff_left_of_imp fun h => h ▸ hempty).symm
      · cases e <;> simp [IsOf, htcp, hunix]

/-- The host of an endpoint that was read is settled. -/
theorem host_of_parse (h : parse text = .ok (.tcp host port)) : IsHost host.toList := by
  obtain ⟨url, hurl, hscheme, hhost, -⟩ := parse_eq_ok_iff.1 h
  exact (settled_of_parse hurl (hscheme ▸ rfl)).host host hhost

/-- The path of an endpoint that was read is settled if it starts with a slash. -/
theorem path_of_parse (h : parse text = .ok (.unix path)) (hroot : path.toList.head? = some '/') :
    IsPath path.toList := by
  obtain ⟨url, hurl, hscheme, rfl, -⟩ := parse_eq_ok_iff.1 h
  exact (settled_of_parse hurl (hscheme ▸ rfl)).path hroot

/-! ## What is written -/

/-- The scheme that sockets of the network are written with. -/
theorem url_of_tcp {s r : List Char} (hs : significant (String.ofList s) = "tcp://".toList ++ r) :
    Url.parse (String.ofList s) = readPlain "tcp" ('/' :: '/' :: r) := by
  rw [Url.parse, hs]
  rfl

/-- The scheme that sockets of the file system are written with. -/
theorem url_of_unix {s r : List Char} (hs : significant (String.ofList s) = "unix://".toList ++ r) :
    Url.parse (String.ofList s) = readPlain "unix" ('/' :: '/' :: r) := by
  rw [Url.parse, hs]
  rfl

theorem text_tcp (host : String) (port : UInt16) :
    (tcp host port).text =
      String.ofList ("tcp://".toList ++ (host.toList ++ ':' :: Nat.toDigits 10 port.toNat)) := by
  rw [text, Nat.toString_eq_ofList_toDigits, ← String.toList_inj]
  simp only [String.toList_append, String.toList_ofList, List.append_assoc]
  rfl

theorem text_unix (path : String) :
    (unix path).text = String.ofList ("unix://".toList ++ path.toList) := by
  rw [text, ← String.toList_inj]
  simp only [String.toList_append, String.toList_ofList]

theorem isNonblank_tcp : ∀ c ∈ "tcp://".toList, IsNonblank c := by simp [IsNonblank]

theorem isNonblank_unix : ∀ c ∈ "unix://".toList, IsNonblank c := by simp [IsNonblank]

theorem isNonblank_toDigits (n : Nat) : ∀ c ∈ Nat.toDigits 10 n, IsNonblank c ∧ c ≠ '@' := by
  intro c hc
  have h := Nat.isDigit_of_mem_toDigits (by decide) (by decide) hc
  rw [Char.isDigit, Bool.and_eq_true, decide_eq_true_iff, ge_iff_le, UInt32.le_iff_toNat_le] at h
  have hle : 48 ≤ c.toNat := h.1
  refine ⟨Nat.lt_of_lt_of_le (by decide) hle, ?_⟩
  rintro rfl
  revert h
  decide

/-- A settled host and a port are read as they are written. -/
theorem parse_text_tcp (hh : IsHost host.toList) (port : UInt16) :
    parse (tcp host port).text = .ok (.tcp host port) := by
  have hport := port.toNat_lt_size
  have hchars : ∀ c ∈ host.toList ++ ':' :: Nat.toDigits 10 port.toNat, IsNonblank c ∧ c ≠ '@' := by
    rw [List.forall_mem_append, List.forall_mem_cons]
    exact ⟨isNonblank_of_isHost hh, by decide, isNonblank_toDigits _⟩
  have hnonblank : ∀ c ∈ "tcp://".toList ++ (host.toList ++ ':' :: Nat.toDigits 10 port.toNat),
      IsNonblank c :=
    List.forall_mem_append.2 ⟨isNonblank_tcp, fun c hc => (hchars c hc).1⟩
  have hne : host.toList.isEmpty = false := List.isEmpty_eq_false_iff.2 hh.ne_nil
  refine parse_eq_ok_iff.2 ⟨⟨"tcp", some host, some port.toNat, ""⟩, ?_, rfl, rfl, ?_⟩
  · rw [text_tcp, url_of_tcp (significant_of_nonblank hnonblank), readPlain,
      skipUserInfo_of_forall_ne .plain fun c hc => (hchars c hc).2]
    simp only [readHostAndPort_of_isHost hh (Nat.le_of_lt_succ hport), hne, Bool.false_eq_true,
      false_and, if_false, String.ofList_toList]
    rfl
  · rw [Option.map_some, UInt16.ofNat_toNat]

/-- A settled path is read as it is written. -/
theorem parse_text_unix (hp : IsPath path.toList) : parse (unix path).text = .ok (.unix path) := by
  have hnonblank : ∀ c ∈ "unix://".toList ++ path.toList, IsNonblank c :=
    List.forall_mem_append.2 ⟨isNonblank_unix, fun c hc =>
      (hp.isKept c hc).isNonblank fun heq => (hp.isKept c hc).2.2 (heq ▸ by decide)⟩
  obtain ⟨r, hr⟩ := List.head?_eq_some_iff.1 hp.head?
  -- The authority ends where it starts, at the slash of the path.
  have hread : readPlain "unix" ('/' :: '/' :: '/' :: r) =
      .ok ⟨"unix", none, none, String.ofList (rootedPath ('/' :: r))⟩ := rfl
  refine parse_eq_ok_iff.2 ⟨⟨"unix", none, none, path⟩, ?_, rfl, rfl, ?_⟩
  · rw [text_unix, url_of_unix (significant_of_nonblank hnonblank), hr, hread, ← hr,
      rootedPath_of_isPath hp, String.ofList_toList]
  · rintro rfl
    cases hr

/-- A path that is read from what is written of a path starts with a slash. -/
theorem head?_of_parse_text {path' : String} (h : parse (unix path).text = .ok (.unix path')) :
    path'.toList.head? = some '/' := by
  obtain ⟨r, hr⟩ := exists_significant_eq (by decide) isNonblank_unix path.toList
  rw [text_unix] at h
  obtain ⟨url, hurl, -, rfl, hne⟩ := parse_eq_ok_iff.1 h
  rw [url_of_unix hr] at hurl
  obtain ⟨_, _, _, rest, -, rfl⟩ := readPlain_authority hurl
  obtain hnil | hsettled := pathAfterAuthority_cases rest
  · exact absurd (congrArg String.ofList hnil) hne
  · rw [String.toList_ofList]
    exact hsettled.head?

/-! ## The round trip -/

/-- A socket of the network, or one whose path starts with a slash. -/
def IsRooted : Endpoint → Prop
  | tcp _ _ => True
  | unix path => path.toList.head? = some '/'

theorem parse_text_of_isRooted (h : parse text = .ok e) (he : e.IsRooted) :
    parse e.text = .ok e := by
  cases e with
  | tcp host port => exact parse_text_tcp (host_of_parse h) port
  | unix path => exact parse_text_unix (path_of_parse h he)

/-- What is read of a written endpoint is rooted. -/
theorem isRooted_of_parse_text (h : parse e.text = .ok e') (he : parse text = .ok e) :
    e'.IsRooted := by
  cases e with
  | tcp host port =>
    rw [parse_text_of_isRooted he trivial] at h
    exact Except.ok.inj h ▸ trivial
  | unix path =>
    cases e' with
    | tcp => trivial
    | unix path' => exact head?_of_parse_text h

/-- An endpoint that has been read is read again from what is written of it just when it is rooted.
    What is read of it is rooted in any case, and so is read again from then on. -/
theorem parse_text_iff_isRooted (h : parse text = .ok e) :
    (parse e.text = .ok e ↔ e.IsRooted) ∧
      ∀ e', parse e.text = .ok e' → parse e'.text = .ok e' :=
  ⟨⟨fun hagain => isRooted_of_parse_text hagain h, parse_text_of_isRooted h⟩,
    fun _ hagain => parse_text_of_isRooted hagain (isRooted_of_parse_text hagain h)⟩

/-- An address in brackets is written in its printed form, with the port, and read again. -/
theorem address_is_read_again :
    parse "tcp://user@[0:0::1]:8080/path" = .ok (.tcp "[::1]" 8080) ∧
      parse (tcp "[::1]" 8080).text = .ok (.tcp "[::1]" 8080) := by
  have hparse : parse "tcp://user@[0:0::1]:8080/path" = .ok (.tcp "[::1]" 8080) := by rfl
  exact ⟨hparse, (parse_text_iff_isRooted hparse).1.2 trivial⟩

/-- A socket whose path has no slash at its start is read, but not from what is written of it. -/
theorem unrooted_path_is_not_read_again :
    ¬∀ (text : String) (e : Endpoint), parse text = .ok e → parse e.text = .ok e := by
  intro h
  have hparse : parse "unix:x" = .ok (.unix "x") := by rfl
  have hagain := h "unix:x" (.unix "x") hparse
  have hmissing : parse (unix "x").text = .error (.missingPath "unix://x") := by rfl
  rw [hmissing] at hagain
  cases hagain

end Testbed.Endpoint
