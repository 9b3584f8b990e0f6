/-
Which cookie makes the key of a client.

A piece of a line spells a cookie if it holds `=` (`Spells`): the name ends at the first one, and blanks
stand at the outer ends only.  The first piece that spells a cookie of the name decides, whatever line it
stands in; lines that do not read as text take no part.  `key_of_first_cookie` says what key comes of it.
-/
import Switchyard.Proofs.Affinity.ClientKey

namespace Switchyard.AffinityOption

/-! ## Pieces -/

/-- A piece of a line spells a cookie: its name ends at the first `=`, and but for blanks around it there is
nothing else. -/
structure Spells (piece name value : List Char) : Prop where
  framed : ∃ front back, piece = front ++ (name ++ '=' :: value ++ back) ∧
    (∀ c ∈ front, isBlank c = true) ∧ ∀ c ∈ back, isBlank c = true
  cut : '=' ∉ name
  starts : ∀ c, name.head? = some c → isBlank c = false
  ends : ∀ c, value.getLast? = some c → isBlank c = false

theorem readCookie_eq_some_iff {piece name value : List Char} :
    readCookie piece = some (name, value) ↔ Spells piece name value := by
  have hne : name ++ '=' :: value ≠ [] := by simp
  have hhead : (∀ c, (name ++ '=' :: value).head? = some c → isBlank c = false) ↔
      ∀ c, name.head? = some c → isBlank c = false := by
    cases name with
    | nil => simp [isBlank]
    | cons d name => simp
  have hlast : (∀ c, (name ++ '=' :: value).getLast? = some c → isBlank c = false) ↔
      ∀ c, value.getLast? = some c → isBlank c = false := by
    cases value with
    | nil => simp [isBlank]
    | cons d value => simp [List.getLast?_cons_cons]
  have htrim := @Text.trim_eq_iff isBlank piece _ hne
  rw [hhead, hlast] at htrim
  constructor
  · intro h
    obtain ⟨hread, hcut⟩ := Text.eq_append_of_splitOnce (b := value) h
    obtain ⟨front, back, hpiece, hfront, hback, hstarts, hends⟩ := htrim.1 hread
    exact ⟨⟨front, back, hpiece, hfront, hback⟩, hcut, hstarts, hends⟩
  · rintro ⟨⟨front, back, hpiece, hfront, hback⟩, hcut, hstarts, hends⟩
    rw [readCookie, htrim.2 ⟨front, back, hpiece, hfront, hback, hstarts, hends⟩]
    exact Text.splitOnce_append value hcut

/-- The pieces of some lines, in order. -/
def pieces (lines : List String) : List (List Char) :=
  lines.flatMap fun line => Text.splitAll ';' line.toList

/-- The first of some pieces that spells a cookie of a name, with its value. -/
def IsFirst (pieces : List (List Char)) (name value : List Char) : Prop :=
  ∃ before piece after, pieces = before ++ piece :: after ∧ Spells piece name value ∧
    ∀ earlier ∈ before, ∀ other, ¬ Spells earlier name other

/-! ## Lines -/

/-- The lines that read as text: visible ASCII, blanks and tabs. -/
def readable (lines : List String) : List String := lines.filter Http.isPlainValue

theorem isPlainValue_eq_false_iff {line : String} :
    Http.isPlainValue line = false ↔
      ∃ c ∈ line.toList, c ≠ '\t' ∧ (c.toNat < 0x20 ∨ 0x7F ≤ c.toNat) := by
  simp only [Http.isPlainValue, List.all_eq_false, Bool.not_eq_true, Bool.or_eq_false_iff,
    Bool.and_eq_false_iff, decide_eq_false_iff_not, beq_eq_false_iff_ne, Nat.not_le, Nat.not_lt]
  constructor
  · rintro ⟨c, hc, hout, htab⟩
    exact ⟨c, hc, htab, hout⟩
  · rintro ⟨c, hc, htab, hout⟩
    exact ⟨c, hc, hout, htab⟩

/-- The lines that read as text, in a row with `;` between them. -/
def oneLine (lines : List String) : String := ";".intercalate (readable lines)

theorem toList_oneLine (lines : List String) :
    (oneLine lines).toList = [';'].intercalate ((readable lines).map String.toList) := by
  rw [oneLine, String.toList_intercalate]
  rfl

/-- A row of lines that read as text reads as text. -/
theorem isPlainValue_oneLine (lines : List String) : Http.isPlainValue (oneLine lines) = true := by
  have hplain : ∀ line ∈ readable lines, Http.isPlainValue line = true :=
    fun line hline => (List.mem_filter.1 hline).2
  rw [Http.isPlainValue, toList_oneLine]
  generalize readable lines = lines at hplain
  induction lines with
  | nil => rfl
  | cons line lines ih =>
    have hline : Http.isPlainValue line = true := hplain line List.mem_cons_self
    rw [Http.isPlainValue] at hline
    have ih := ih fun later hlater => hplain later (List.mem_cons_of_mem line hlater)
    cases lines with
    | nil => simpa using hline
    | cons next lines =>
      rw [List.map_cons, List.map_cons, List.intercalate_cons_cons, List.all_append, List.all_append,
        hline, ← List.map_cons, ih]
      rfl

/-- Joining lines changes neither their pieces nor what is read of them. -/
theorem cookies_oneLine (lines : List String) : cookies [oneLine lines] = cookies lines := by
  have hpieces (pieces : List (List Char)) :
      (pieces.flatMap (Text.splitAll ';')).filterMap readCookie =
        pieces.flatMap fun piece => (Text.splitAll ';' piece).filterMap readCookie := by
    rw [List.filterMap_flatMap]
  rw [cookies, List.filter_cons_of_pos (isPlainValue_oneLine lines), List.filter_nil, List.flatMap_cons,
    List.flatMap_nil, List.append_nil, toList_oneLine, cookies]
  change _ = (readable lines).flatMap _
  by_cases hnone : readable lines = []
  · rw [hnone]
    rfl
  · rw [Text.splitAll_intercalate ';' (by simpa using hnone), hpieces, List.flatMap_map]

/-! ## The first cookie of a name -/

theorem cookies_eq_filterMap (lines : List String) :
    cookies lines = (pieces (readable lines)).filterMap readCookie := by
  rw [pieces, List.filterMap_flatMap]
  rfl

theorem any_readCookie_iff {piece name : List Char} :
    (readCookie piece).any (·.1 = name) = true ↔ ∃ value, Spells piece name value := by
  simp only [Option.any_eq_true_iff_get, ← readCookie_eq_some_iff]
  constructor
  · rintro ⟨hsome, hname⟩
    refine ⟨((readCookie piece).get hsome).2, ?_⟩
    rw [← of_decide_eq_true hname]
    exact (Option.some_get hsome).symm
  · rintro ⟨value, hread⟩
    rw [hread]
    exact ⟨rfl, decide_eq_true rfl⟩

/-- What is found is the value of the first piece that spells a cookie of the name. -/
theorem cookieValue_eq_some_iff {lines : List String} {name value : String} :
    cookieValue lines name = some value ↔ IsFirst (pieces (readable lines)) name.toList value.toList := by
  rw [cookieValue, cookies_eq_filterMap, List.find?_filterMap]
  constructor
  · intro h
    obtain ⟨cookie, hfound, rfl⟩ := Option.map_eq_some_iff.1 h
    obtain ⟨piece, hfirst, hread⟩ := Option.bind_eq_some_iff.1 hfound
    obtain ⟨hname, before, after, hpieces, hbefore⟩ := List.find?_eq_some_iff_append.1 hfirst
    refine ⟨before, piece, after, hpieces, ?_, fun earlier hearlier other hspells => ?_⟩
    · rw [hread, Option.any_some, decide_eq_true_eq] at hname
      rw [← readCookie_eq_some_iff, ← hname, String.toList_ofList]
      exact hread
    · have hother := any_readCookie_iff.2 ⟨other, hspells⟩
      simpa [hother] using hbefore earlier hearlier
  · rintro ⟨before, piece, after, hpieces, hspells, hbefore⟩
    have hfirst : (pieces (readable lines)).find? (fun p => (readCookie p).any (·.1 = name.toList)) =
        some piece := by
      refine List.find?_eq_some_iff_append.2
        ⟨any_readCookie_iff.2 ⟨value.toList, hspells⟩, before, after, hpieces, fun earlier hearlier => ?_⟩
      rw [Bool.not_eq_true', ← Bool.not_eq_true, any_readCookie_iff]
      rintro ⟨other, hother⟩
      exact hbefore earlier hearlier other hother
    rw [hfirst, Option.bind_some, readCookie_eq_some_iff.2 hspells, Option.map_some, String.ofList_toList]

theorem cookieValue_eq_none_iff {lines : List String} {name : String} :
    cookieValue lines name = none ↔
      ∀ piece ∈ pieces (readable lines), ∀ value, ¬ Spells piece name.toList value := by
  have hnone : cookieValue lines name = none ↔
      ∀ c ∈ cookies lines, c.1 ≠ name.toList := by
    simp [cookieValue]
  rw [hnone, cookies_eq_filterMap]
  constructor
  · intro h piece hpiece value hspells
    exact h _ (List.mem_filterMap.2 ⟨piece, hpiece, readCookie_eq_some_iff.2 hspells⟩) rfl
  · rintro h ⟨_, value⟩ hcookie rfl
    obtain ⟨piece, hpiece, hread⟩ := List.mem_filterMap.1 hcookie
    exact h piece hpiece value (readCookie_eq_some_iff.1 hread)

/-! ## Keys -/

variable {headers headers' : Http.Headers} {peer : Option Net.SocketAddr} {name : String}

/-- The key depends on the cookies alone. -/
theorem clientKey_cookie_congr (h : cookies (headers.values "cookie") = cookies (headers'.values "cookie")) :
    (cookie name).clientKey headers peer = (cookie name).clientKey headers' peer := by
  have hvalue : (cookie name).value? headers peer = (cookie name).value? headers' peer := by
    rw [value?, value?, cookieValue, cookieValue, h]
  rw [clientKey, clientKey, hvalue]

theorem values_cookie (lines : List String) :
    Http.Headers.values (lines.map fun line => ("cookie", line)) "cookie" = lines := by
  have hname : Http.fieldName "cookie" = "cookie" := by decide +kernel
  simp [Http.Headers.values, hname, List.filter_map, Function.comp_def]

theorem clientKey_cookie_eq_none_iff :
    (cookie name).clientKey headers peer = none ↔
      cookieValue (headers.values "cookie") name = none ∨
        cookieValue (headers.values "cookie") name = some "" := by
  have hvalue : (cookie name).value? headers peer = cookieValue (headers.values "cookie") name := rfl
  rw [clientKey, hvalue]
  cases cookieValue (headers.values "cookie") name with
  | none => simp
  | some value => simp

/-- **The first cookie of a name makes the key**, whatever lines it and the others stand in.  The key is that
of the one line that all lines make which read as text; any other line could as well be missing.  It holds
the value of the first piece that spells a cookie of the name, and there is none if no piece does or the
first one has an empty value. -/
theorem key_of_first_cookie (name : String) (headers : Http.Headers) (peer : Option Net.SocketAddr) :
    (cookie name).clientKey headers peer =
      (cookie name).clientKey [("cookie", oneLine (headers.values "cookie"))] peer ∧
    (∀ before line after, headers.values "cookie" = before ++ line :: after →
      (∃ c ∈ line.toList, c ≠ '\t' ∧ (c.toNat < 0x20 ∨ 0x7F ≤ c.toNat)) →
        (cookie name).clientKey headers peer =
          (cookie name).clientKey ((before ++ after).map fun line => ("cookie", line)) peer) ∧
    (∀ key, (cookie name).clientKey headers peer = some key ↔
      ∃ value, IsFirst (pieces (readable (headers.values "cookie"))) name.toList value.toList ∧
        value ≠ "" ∧ key = "cookie:" ++ name ++ "=" ++ value) ∧
    ((cookie name).clientKey headers peer = none ↔
      (∀ piece ∈ pieces (readable (headers.values "cookie")), ∀ value,
          ¬ Spells piece name.toList value) ∨
        IsFirst (pieces (readable (headers.values "cookie"))) name.toList []) := by
  refine ⟨?_, ?_, ?_, ?_⟩
  · refine clientKey_cookie_congr ?_
    have hone := values_cookie [oneLine (headers.values "cookie")]
    rw [List.map_singleton] at hone
    rw [hone, cookies_oneLine]
  · intro before line after hlines hline
    refine clientKey_cookie_congr ?_
    rw [values_cookie, hlines, cookies_eq_filterMap, cookies_eq_filterMap, readable, readable,
      List.filter_append, List.filter_append, List.filter_cons_of_neg]
    exact Bool.eq_false_iff.1 (isPlainValue_eq_false_iff.2 hline)
  · intro key
    simp only [← cookieValue_eq_some_iff]
    exact clientKey_eq_some
  · rw [clientKey_cookie_eq_none_iff, cookieValue_eq_none_iff, cookieValue_eq_some_iff]
    rfl

/-- A line outside ASCII could be missing; behind it come pieces without `=`, a cookie of another name, and
at last one whose value holds `=`.  Where the first cookie of a name is empty, a later one does not help. -/
theorem key_of_first_cookie_split :
    (cookie "sid").clientKey [("cookie", "sid=1; \u00e9"), ("cookie", ";sid ; a=sid=2; \tsid=a=b "),
        ("cookie", "sid=3")] none = some "cookie:sid=a=b" ∧
    (cookie "sid").clientKey [("cookie", "sid=;sid=3"), ("cookie", "sid=4")] none = none := by
  obtain ⟨-, hmissing, -, -⟩ := key_of_first_cookie "sid" [("cookie", "sid=1; \u00e9"),
    ("cookie", ";sid ; a=sid=2; \tsid=a=b "), ("cookie", "sid=3")] none
  obtain ⟨-, -, hkey, -⟩ := key_of_first_cookie "sid"
    [("cookie", ";sid ; a=sid=2; \tsid=a=b "), ("cookie", "sid=3")] none
  obtain ⟨-, -, -, hnone⟩ := key_of_first_cookie "sid" [("cookie", "sid=;sid=3"), ("cookie", "sid=4")] none
  have hpieces : pieces (readable (Http.Headers.values
      [("cookie", ";sid ; a=sid=2; \tsid=a=b "), ("cookie", "sid=3")] "cookie")) =
        ["".toList, "sid ".toList, " a=sid=2".toList] ++ " \tsid=a=b ".toList :: ["sid=3".toList] := by
    decide +kernel
  have hothers : ∀ earlier ∈ ["".toList, "sid ".toList, " a=sid=2".toList],
      ¬ (readCookie earlier).any (·.1 = "sid".toList) = true := by
    decide +kernel
  refine ⟨?_, ?_⟩
  · have hwide : '\u00e9' ∈ "sid=1; \u00e9".toList := by decide
    rw [hmissing [] "sid=1; \u00e9" [";sid ; a=sid=2; \tsid=a=b ", "sid=3"] (by decide +kernel)
      ⟨'\u00e9', hwide, by decide, by decide⟩]
    refine (hkey _).2 ⟨"a=b", ⟨_, _, _, hpieces, ?_, fun earlier hearlier other hspells => ?_⟩,
      by decide, by decide⟩
    · exact readCookie_eq_some_iff.1 (by decide +kernel)
    · exact hothers earlier hearlier (any_readCookie_iff.2 ⟨other, hspells⟩)
  · refine hnone.2 (.inr ⟨[], "sid=".toList, ["sid=3".toList, "sid=4".toList], by decide +kernel, ?_, ?_⟩)
    · exact readCookie_eq_some_iff.1 (by decide +kernel)
    · exact fun _ h => absurd h List.not_mem_nil

end Switchyard.AffinityOption
