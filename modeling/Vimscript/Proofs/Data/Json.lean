import Mathlib.Data.List.Basic
import Vimscript.Data.Json
import Vimscript.Proofs.Number.Written
import Vimscript.Proofs.Text.Piece

/-!
# Reading back what was written

The reader undoes the writer. A text, a number or a word is read back
whatever follows it, except that a number must not be continued: that is
`ReadBack`, and it also says how much fuel is enough, namely more than there
are characters. Lists and maps are put together from what is read back
(`ReadBack.more`, `ItemsReadBack.list` and their like), where an item needs
no more than that it does not start with white space; so one induction
over the data covers both styles of writing (`readBack`).

What a document can tell apart is `Data.isJson`. Among such data the writer
refuses only integers with too many digits (`renderAt_cases`).
-/

namespace Vimscript

open Text (StopsAt stopsAt_cons takeWhile_append_rest dropWhile_append_rest)

/-! ## Data for documents -/

namespace Data

mutual

/-- Whether data is what a document in JSON tells apart: nothing, truth values, integers, texts,
lists, and maps whose keys are distinct texts. -/
def isJson : Data → Bool
  | .null | .bool _ | .int _ | .text _ => true
  | .list items => isJsonAll items
  | .map entries => isJsonEntries [] entries
  | .float _ | .bytes _ | .foreign => false

def isJsonAll : List Data → Bool
  | [] => true
  | d :: rest => isJson d && isJsonAll rest

/-- Entries whose keys are distinct texts, and none of those already seen. -/
def isJsonEntries (seen : List String) : List (Key × Data) → Bool
  | [] => true
  | (.text k, d) :: rest => !seen.contains k && isJson d && isJsonEntries (k :: seen) rest
  | _ => false

end

theorem putEntry_new {k : String} {d : Data} {entries : List (Key × Data)}
    (hnew : ∀ e ∈ entries, ∃ k', e.1 = .text k' ∧ k' ≠ k) :
    putEntry (.text k) d entries = entries ++ [(.text k, d)] := by
  induction entries with
  | nil => rfl
  | cons e rest ih =>
      obtain ⟨key, v⟩ := e
      obtain ⟨k', rfl, hk⟩ := hnew _ List.mem_cons_self
      have hsame : (Key.text k').same (.text k) = false := beq_eq_false_iff_ne.mpr hk
      rw [putEntry, hsame, ih fun e he => hnew e (List.mem_cons_of_mem _ he)]
      rfl

theorem foldl_putEntry {seen : List String} {entries made : List (Key × Data)}
    (hentries : isJsonEntries seen entries = true)
    (hmade : ∀ e ∈ made, ∃ k ∈ seen, e.1 = .text k) :
    entries.foldl (fun acc (k, v) => putEntry k v acc) made = made ++ entries := by
  induction entries generalizing seen made with
  | nil => rw [List.foldl_nil, List.append_nil]
  | cons e rest ih =>
      obtain ⟨key, d⟩ := e
      cases key with
      | text k =>
          simp only [isJsonEntries, Bool.and_eq_true, Bool.not_eq_true', List.contains_eq_mem,
            decide_eq_false_iff_not] at hentries
          obtain ⟨⟨hk, -⟩, hrest⟩ := hentries
          have hnew : ∀ e ∈ made, ∃ k', e.1 = .text k' ∧ k' ≠ k := by
            intro e he
            obtain ⟨k', hk', heq⟩ := hmade e he
            refine ⟨k', heq, ?_⟩
            rintro rfl
            exact hk hk'
          simp only [List.foldl_cons, putEntry_new hnew]
          rw [ih hrest, List.append_assoc]
          · rfl
          · intro e he
            rcases List.mem_append.mp he with he | he
            · obtain ⟨k', hk', heq⟩ := hmade e he
              exact ⟨k', List.mem_cons_of_mem _ hk', heq⟩
            · obtain rfl := List.mem_singleton.mp he
              exact ⟨k, List.mem_cons_self, rfl⟩
      | null | bool _ | int _ | float _ => cases hentries

/-- Entries with distinct keys make the map of these entries. -/
theorem ofEntries_eq {entries : List (Key × Data)} (h : isJsonEntries [] entries = true) :
    ofEntries entries = .map entries := by
  rw [ofEntries, foldl_putEntry h (by simp), List.nil_append]

end Data

namespace Json

/-! ## Texts -/

theorem hex_control : ∀ n < 0x20, ∃ a b c d, Text.hex 4 n = [a, b, c, d] ∧
    (Number.isHex a && Number.isHex b && Number.isHex c && Number.isHex d) = true ∧
    Number.ofDigits 16 [a, b, c, d] = n := by
  have hall : ∀ n < 0x20, (Text.hex 4 n).length = 4 ∧ (Text.hex 4 n).all Number.isHex = true ∧
      Number.ofDigits 16 (Text.hex 4 n) = n := by
    decide +kernel
  intro n hn
  obtain ⟨hlength, hhex, hvalue⟩ := hall n hn
  obtain ⟨a, ds, hds⟩ := List.exists_cons_of_length_eq_add_one hlength
  rw [hds] at hlength hhex hvalue ⊢
  obtain ⟨b, c, d, rfl⟩ := List.length_eq_three.mp (Nat.succ.inj hlength)
  refine ⟨a, b, c, d, rfl, ?_, hvalue⟩
  simpa [Bool.and_assoc] using hhex

theorem scanText_letter {e c : Char} (he : e ≠ 'u') (hc : escaped? e = some c)
    (rest : List Char) : scanText ('\\' :: e :: rest) =
      (scanText rest).map fun (units, tail) => (c.toNat :: units, tail) := by
  rw [scanText]
  · rw [hc]
  · exact fun _ _ _ _ _ hu => absurd hu he

theorem scanText_control {n : Nat} (hn : n < 0x20) (rest : List Char) :
    scanText ('\\' :: 'u' :: (Text.hex 4 n ++ rest)) =
      (scanText rest).map fun (units, tail) => (n :: units, tail) := by
  obtain ⟨a, b, c, d, hhex, hdigits, hvalue⟩ := hex_control n hn
  rw [hhex]
  simp only [List.cons_append, List.nil_append, scanText, hdigits, if_true, hvalue]

theorem scanText_plain {c : Char} (hquote : c ≠ '"') (hback : c ≠ '\\') (hc : ¬ c.toNat < 0x20)
    (rest : List Char) : scanText (c :: rest) =
      (scanText rest).map fun (units, tail) => (c.toNat :: units, tail) := by
  rw [scanText]
  · rw [if_neg]
    simp [hc, hback]
  · exact hquote
  · exact fun _ _ _ _ _ hc => absurd hc hback
  · exact fun _ _ hc => absurd hc hback

/-- A character is scanned as it was escaped. -/
theorem scanText_escapeChar (c : Char) (rest : List Char) :
    scanText (escapeChar c ++ rest) =
      (scanText rest).map fun (units, tail) => (c.toNat :: units, tail) := by
  unfold escapeChar
  by_cases hquote : c = '"'
  · subst hquote
    exact scanText_letter (by decide) rfl rest
  by_cases hback : c = '\\'
  · subst hback
    exact scanText_letter (by decide) rfl rest
  by_cases hline : c = '\n'
  · subst hline
    exact scanText_letter (by decide) rfl rest
  by_cases hreturn : c = '\r'
  · subst hreturn
    exact scanText_letter (by decide) rfl rest
  by_cases htab : c = '\t'
  · subst htab
    exact scanText_letter (by decide) rfl rest
  simp only [beq_iff_eq, hquote, hback, hline, hreturn, htab, if_false]
  split
  · rename_i hfeed
    rw [hfeed]
    exact scanText_letter (e := 'f') (by decide) rfl rest
  split
  · rename_i hbell
    rw [hbell]
    exact scanText_letter (e := 'b') (by decide) rfl rest
  split
  · rename_i hcontrol
    exact scanText_control hcontrol rest
  · rename_i hplain
    exact scanText_plain hquote hback hplain rest

theorem scanText_escaped (cs rest : List Char) :
    scanText (cs.flatMap escapeChar ++ '"' :: rest) = some (cs.map Char.toNat, rest) := by
  induction cs with
  | nil => rfl
  | cons c cs ih =>
      rw [List.flatMap_cons, List.append_assoc, scanText_escapeChar, ih]
      rfl

/-- Characters are never halves of surrogate pairs. -/
theorem joinUnits_toNat (cs : List Char) : joinUnits none (cs.map Char.toNat) = cs := by
  induction cs with
  | nil => rfl
  | cons c cs ih =>
      have hvalid : c.toNat < 0xD800 ∨ 0xDFFF < c.toNat := by
        rcases c.valid with h | h
        · exact .inl h
        · exact .inr h.1
      have hhigh : isHighHalf c.toNat = false := by
        simp only [isHighHalf, Bool.and_eq_false_iff, decide_eq_false_iff_not]
        omega
      have hlow : isLowHalf c.toNat = false := by
        simp only [isLowHalf, Bool.and_eq_false_iff, decide_eq_false_iff_not]
        omega
      rw [List.map_cons, joinUnits, hhigh, hlow, ih, Char.ofNat_toNat]
      rfl

/-- A text is read back, whatever follows it. -/
theorem readText_quote (s : String) (rest : List Char) :
    readText (s.toList.flatMap escapeChar ++ '"' :: rest) = some (s, rest) := by
  rw [readText, scanText_escaped, Option.map_some]
  dsimp only
  rw [joinUnits_toNat, String.ofList_toList]

theorem toList_quote (s : String) :
    (quote s).toList = '"' :: (s.toList.flatMap escapeChar ++ ['"']) := by
  rw [quote, String.toList_ofList]
  rfl

/-! ## Numbers and words -/

/-- Whether a character right after an integer would be read as part of the number. -/
def continues (c : Char) : Bool := c.isDigit || c == '.' || c == 'e' || c == 'E'

variable {rest : List Char}

theorem readFraction_of_stops (hrest : StopsAt continues rest) : readFraction rest = none := by
  unfold readFraction
  split
  · exact absurd (stopsAt_cons.mp hrest) (by decide)
  · rfl

theorem readExponent_of_stops (hrest : StopsAt continues rest) : readExponent rest = none := by
  unfold readExponent
  split
  · rename_i e rest
    have he := stopsAt_cons.mp hrest
    simp only [continues, Bool.or_eq_false_iff] at he
    simp only [he.1.2, he.2, Bool.or_self, Bool.false_eq_true, if_false]
  · rfl

theorem readUnsigned_of_stops (hrest : StopsAt continues rest) (negative : Bool)
    (whole : List Char) : readUnsigned negative whole rest =
      (.int (Number.signed negative (Number.ofDigits 10 whole)), rest) := by
  rw [readUnsigned, readFraction_of_stops hrest, readExponent_of_stops hrest]

theorem readNumber_toString (n : Int) (hrest : StopsAt continues rest) :
    readNumber ((toString n).toList ++ rest) = some (.int n, rest) := by
  have hdigits : StopsAt Char.isDigit rest := by
    intro c hc
    have hc := hrest c hc
    simp only [continues, Bool.or_eq_false_iff] at hc
    exact hc.1.1.1
  have hrun : ∀ c ∈ Nat.toDigits 10 n.natAbs, c.isDigit = true :=
    fun c hc => Number.isDigit_of_mem hc
  have hunsigned : readUnsigned (decide (n < 0)) (Nat.toDigits 10 n.natAbs) rest =
      (.int n, rest) := by
    rw [readUnsigned_of_stops hrest, Number.ofDigits_ten_toDigits, Number.signed_natAbs]
  rw [readNumber, Number.splitSign_toString]
  dsimp only
  by_cases hzero : n.natAbs = 0
  · rw [hzero, Nat.toDigits_zero] at hunsigned ⊢
    simp only [List.cons_append, List.nil_append, hunsigned]
  · have hhead := Number.head?_toDigits (Nat.pos_of_ne_zero hzero)
    have htake := takeWhile_append_rest hrun hdigits
    have hdrop := dropWhile_append_rest hrun hdigits
    obtain ⟨c, cs, hcs⟩ :=
      List.exists_cons_of_ne_nil (Nat.toDigits_ne_nil (n := n.natAbs) (b := 10))
    rw [hcs] at hhead hrun hunsigned htake hdrop ⊢
    have hc : c.isDigit = true := hrun c List.mem_cons_self
    rw [List.cons_append] at htake hdrop ⊢
    split
    · rename_i heq
      cases heq
      exact absurd rfl hhead
    · rename_i heq
      cases heq
      rw [if_pos hc, htake, hdrop, hunsigned]
    · rename_i heq
      cases heq

/-- No word is a number. -/
theorem readWord_toString (n : Int) (rest : List Char) :
    readWord ((toString n).toList ++ rest) = none := by
  obtain ⟨c, cs, hcs⟩ :=
    List.exists_cons_of_ne_nil (Nat.toDigits_ne_nil (n := n.natAbs) (b := 10))
  have hc : c.isDigit = true := Number.isDigit_of_mem (n := n.natAbs) (hcs ▸ List.mem_cons_self)
  have hne : ∀ d : Char, d.isDigit = false → d ≠ c := by
    rintro d hd rfl
    exact absurd (hd.symm.trans hc) (by decide)
  rw [Number.toList_toString, hcs]
  by_cases hn : n < 0
  · rw [if_pos hn]
    simp [readWord, dropWord?, hne]
  · rw [if_neg hn]
    simp [readWord, dropWord?, hne]

/-! ## What is written -/

variable {pretty : Bool} {level : Nat} {text : String} {parts : List String}

theorem renderAt_list {d : Data} {items : List Data}
    (h : renderAt pretty level (.list (d :: items)) = .ok text) :
    ∃ parts, renderAll pretty (level + 1) (d :: items) = .ok parts ∧
      text.toList = '[' :: ((lineBreak pretty (level + 1)).toList ++
        (((separator pretty (level + 1)).intercalate parts).toList ++
          ((lineBreak pretty level).toList ++ [']']))) := by
  rw [renderAt] at h
  · cases hparts : renderAll pretty (level + 1) (d :: items) with
    | error f => rw [hparts] at h; cases h
    | ok parts =>
        rw [hparts] at h
        cases h
        refine ⟨parts, rfl, ?_⟩
        simp only [String.toList_append, List.append_assoc]
        rfl
  · exact nofun

theorem renderAt_map {e : Key × Data} {entries : List (Key × Data)}
    (h : renderAt pretty level (.map (e :: entries)) = .ok text) :
    ∃ parts, renderEntries pretty (level + 1) (e :: entries) = .ok parts ∧
      text.toList = '\x7b' :: ((lineBreak pretty (level + 1)).toList ++
        (((separator pretty (level + 1)).intercalate parts).toList ++
          ((lineBreak pretty level).toList ++ ['\x7d']))) := by
  rw [renderAt] at h
  · cases hparts : renderEntries pretty (level + 1) (e :: entries) with
    | error f => rw [hparts] at h; cases h
    | ok parts =>
        rw [hparts] at h
        cases h
        refine ⟨parts, rfl, ?_⟩
        simp only [String.toList_append, List.append_assoc]
        rfl
  · exact nofun

theorem renderAll_cons {d : Data} {items : List Data}
    (h : renderAll pretty level (d :: items) = .ok parts) :
    ∃ first others, renderAt pretty level d = .ok first ∧
      renderAll pretty level items = .ok others ∧ parts = first :: others := by
  rw [renderAll] at h
  cases hfirst : renderAt pretty level d with
  | error f => rw [hfirst] at h; cases h
  | ok first =>
      rw [hfirst] at h
      cases hothers : renderAll pretty level items with
      | error f => rw [hothers] at h; cases h
      | ok others => rw [hothers] at h; cases h; exact ⟨first, others, rfl, rfl, rfl⟩

theorem renderEntries_cons {k : Key} {d : Data} {entries : List (Key × Data)}
    (h : renderEntries pretty level ((k, d) :: entries) = .ok parts) :
    ∃ value others, renderAt pretty level d = .ok value ∧
      renderEntries pretty level entries = .ok others ∧
      parts = (renderKey k ++ ": " ++ value) :: others := by
  rw [renderEntries] at h
  cases hvalue : renderAt pretty level d with
  | error f => rw [hvalue] at h; cases h
  | ok value =>
      rw [hvalue] at h
      cases hothers : renderEntries pretty level entries with
      | error f => rw [hothers] at h; cases h
      | ok others => rw [hothers] at h; cases h; exact ⟨value, others, rfl, rfl, rfl⟩

/-! ## White space -/

theorem isSpace_of_mem_lineBreak {c : Char} (hc : c ∈ (lineBreak pretty level).toList) :
    isSpace c = true := by
  unfold lineBreak at hc
  split at hc
  · rw [String.toList_ofList] at hc
    rcases List.mem_cons.mp hc with rfl | hc
    · rfl
    · rw [List.eq_of_mem_replicate hc]
      rfl
  · cases hc

/-- A comma and white space separate items. -/
theorem toList_separator (pretty : Bool) (level : Nat) :
    ∃ gap, (separator pretty level).toList = ',' :: gap ∧ ∀ c ∈ gap, isSpace c = true := by
  unfold separator
  split
  · refine ⟨(lineBreak pretty level).toList, ?_, fun c hc => isSpace_of_mem_lineBreak hc⟩
    rw [String.toList_append]
    rfl
  · exact ⟨[' '], rfl, List.forall_mem_singleton.mpr rfl⟩

theorem skipSpace_append {gap rest : List Char} (hgap : ∀ c ∈ gap, isSpace c = true)
    (hrest : StopsAt isSpace rest) : skipSpace (gap ++ rest) = rest :=
  dropWhile_append_rest hgap hrest

theorem skipSpace_of_stopsAt {rest : List Char} (hrest : StopsAt isSpace rest) :
    skipSpace rest = rest := by
  have hgap : ∀ c ∈ ([] : List Char), isSpace c = true := nofun
  exact skipSpace_append hgap hrest

theorem skipSpace_blank {rest : List Char} (hrest : StopsAt isSpace rest) :
    skipSpace (' ' :: rest) = rest := by
  have hgap : ∀ c ∈ [' '], isSpace c = true := List.forall_mem_singleton.mpr rfl
  exact skipSpace_append hgap hrest

theorem skipSpace_cons {c : Char} (hc : isSpace c = false) (rest : List Char) :
    skipSpace (c :: rest) = c :: rest :=
  skipSpace_of_stopsAt (stopsAt_cons.mpr hc)

theorem continues_of_isSpace {c : Char} (hc : isSpace c = true) : continues c = false := by
  simp only [isSpace, Bool.or_eq_true, beq_iff_eq] at hc
  rcases hc with ((rfl | rfl) | rfl) | rfl <;> rfl

/-- White space ends a number, and so does what follows it where there is none. -/
theorem stopsAt_gap {gap rest : List Char} (hgap : ∀ c ∈ gap, isSpace c = true)
    (hrest : StopsAt continues rest) : StopsAt continues (gap ++ rest) := by
  cases gap with
  | nil => exact hrest
  | cons c gap => exact stopsAt_cons.mpr (continues_of_isSpace (hgap c List.mem_cons_self))

theorem isSpace_of_numeric {c : Char} (hc : c.isDigit = true ∨ c = '-') :
    isSpace c = false ∧ c ≠ ']' := by
  rcases hc with hc | rfl
  · have hne : ∀ d : Char, d.isDigit = false → c ≠ d := by
      rintro d hd rfl
      exact absurd (hd.symm.trans hc) (by decide)
    simp [isSpace, hne]
  · exact ⟨rfl, by decide⟩

/-- A text that starts with neither white space nor a closing bracket. -/
def Starts (text : String) : Prop :=
  ∃ c cs, text.toList = c :: cs ∧ isSpace c = false ∧ c ≠ ']'

theorem Starts.stopsAt (h : Starts text) (rest : List Char) :
    StopsAt isSpace (text.toList ++ rest) := by
  obtain ⟨c, cs, hcs, hc, -⟩ := h
  rw [hcs]
  exact stopsAt_cons.mpr hc

theorem Starts.head?_ne (h : Starts text) (rest : List Char) :
    (text.toList ++ rest).head? ≠ some ']' := by
  obtain ⟨c, cs, hcs, -, hc⟩ := h
  rw [hcs]
  exact fun heq => hc (Option.some.inj heq)

theorem Starts.append (h : Starts text) (more : String) : Starts (text ++ more) := by
  obtain ⟨c, cs, hcs, hc⟩ := h
  exact ⟨c, cs ++ more.toList, by rw [String.toList_append, hcs]; rfl, hc⟩

theorem starts_of_head? (h : text.toList.head? = some '"') : Starts text := by
  obtain ⟨cs, hcs⟩ := List.head?_eq_some_iff.mp h
  exact ⟨'"', cs, hcs, rfl, by decide⟩

theorem head?_append {c : Char} (h : text.toList.head? = some c) (more : String) :
    (text ++ more).toList.head? = some c := by
  rw [String.toList_append, List.head?_append, h, Option.some_or]

theorem head?_quote (s : String) : (quote s).toList.head? = some '"' := by
  rw [toList_quote, List.head?_cons]

theorem starts_renderAt {d : Data} (hd : d.isJson = true)
    (h : renderAt pretty level d = .ok text) : Starts text := by
  cases d with
  | null => cases h; exact ⟨'n', _, rfl, rfl, by decide⟩
  | bool b => cases b <;> cases h <;> exact ⟨_, _, rfl, rfl, by decide⟩
  | int n =>
      obtain ⟨c, cs, hcs⟩ := List.exists_cons_of_ne_nil (Number.toList_toString_ne_nil n)
      have hc : c.isDigit = true ∨ c = '-' :=
        Number.mem_toString (n := n) (hcs ▸ List.mem_cons_self)
      rw [renderAt, Number.write] at h
      split at h
      · cases h
      · cases h
        exact ⟨c, cs, hcs, isSpace_of_numeric hc⟩
  | text s => cases h; exact starts_of_head? (head?_quote s)
  | list items =>
      cases items with
      | nil => cases h; exact ⟨'[', _, rfl, rfl, by decide⟩
      | cons d items =>
          obtain ⟨parts, -, htext⟩ := renderAt_list h
          exact ⟨_, _, htext, rfl, by decide⟩
  | map entries =>
      cases entries with
      | nil => cases h; exact ⟨'\x7b', _, rfl, rfl, by decide⟩
      | cons e entries =>
          obtain ⟨parts, -, htext⟩ := renderAt_map h
          exact ⟨_, _, htext, rfl, by decide⟩
  | float _ | bytes _ | foreign => cases hd

/-! ## Steps of the reader -/

section

variable {fuel : Nat} {cs more tail : List Char} {key : String} {d : Data} {ds : List Data}
  {es : List (Key × Data)}

theorem readData_list {start : List Char} (hskip : skipSpace cs = start)
    (hstart : start.head? ≠ some ']') (hitems : readItems fuel start = some (ds, tail)) :
    readData (fuel + 1) ('[' :: cs) = some (.list ds, tail) := by
  rw [readData]
  subst hskip
  split
  · rename_i heq
    rw [heq] at hstart
    exact absurd rfl hstart
  · rw [hitems]
    rfl

theorem readData_map {start : List Char} (hskip : skipSpace cs = start)
    (hstart : start.head? = some '"') (hentries : readEntries fuel start = some (es, tail)) :
    readData (fuel + 1) ('\x7b' :: cs) = some (Data.ofEntries es, tail) := by
  rw [readData]
  subst hskip
  split
  · rename_i heq
    rw [heq] at hstart
    cases hstart
  · rw [hentries]
    rfl

theorem readItems_last (hd : readData fuel cs = some (d, rest))
    (hskip : skipSpace rest = ']' :: tail) : readItems (fuel + 1) cs = some ([d], tail) := by
  simp only [readItems, hd, hskip]

theorem readItems_more (hd : readData fuel cs = some (d, rest))
    (hskip : skipSpace rest = ',' :: more)
    (hmore : readItems fuel (skipSpace more) = some (ds, tail)) :
    readItems (fuel + 1) cs = some (d :: ds, tail) := by
  simp only [readItems, hd, hskip, hmore, Option.map_some]

/-- A key ends at its colon, and the value follows after a blank. -/
theorem quote_append (key : String) (value : List Char) :
    (quote key).toList ++ (": ".toList ++ value) =
      '"' :: (key.toList.flatMap escapeChar ++ '"' :: ':' :: ' ' :: value) := by
  rw [toList_quote, List.cons_append, List.append_assoc]
  rfl

theorem readEntries_last {value : List Char} (hvalue : StopsAt isSpace value)
    (hd : readData fuel value = some (d, rest)) (hskip : skipSpace rest = '\x7d' :: tail) :
    readEntries (fuel + 1) ((quote key).toList ++ (": ".toList ++ value)) =
      some ([(.text key, d)], tail) := by
  have hblank : skipSpace (' ' :: value) = value := skipSpace_blank hvalue
  rw [quote_append]
  simp only [readEntries, readText_quote, skipSpace_cons (c := ':') rfl, hblank, hd, hskip]

theorem readEntries_more {value : List Char} (hvalue : StopsAt isSpace value)
    (hd : readData fuel value = some (d, rest)) (hskip : skipSpace rest = ',' :: more)
    (hmore : readEntries fuel (skipSpace more) = some (es, tail)) :
    readEntries (fuel + 1) ((quote key).toList ++ (": ".toList ++ value)) =
      some ((.text key, d) :: es, tail) := by
  have hblank : skipSpace (' ' :: value) = value := skipSpace_blank hvalue
  rw [quote_append]
  simp only [readEntries, readText_quote, skipSpace_cons (c := ':') rfl, hblank, hd, hskip, hmore,
    Option.map_some]

end

/-! ## The reader on what the writer wrote -/

/-- A text is read back as some data with what follows left over, given enough fuel and nothing
after it that would continue a number. -/
def ReadBack (d : Data) (text : String) : Prop :=
  ∀ fuel rest, text.toList.length < fuel → StopsAt continues rest →
    readData fuel (text.toList ++ rest) = some (d, rest)

/-- The joined texts of items are read back up to the bracket that closes the list. -/
def ItemsReadBack (items : List Data) (text : String) : Prop :=
  ∀ fuel gap rest, text.toList.length + 1 < fuel → (∀ c ∈ gap, isSpace c = true) →
    readItems fuel (text.toList ++ (gap ++ ']' :: rest)) = some (items, rest)

/-- The joined texts of entries are read back up to the brace that closes the map. -/
def EntriesReadBack (entries : List (Key × Data)) (text : String) : Prop :=
  ∀ fuel gap rest, text.toList.length + 1 < fuel → (∀ c ∈ gap, isSpace c = true) →
    readEntries fuel (text.toList ++ (gap ++ '\x7d' :: rest)) = some (entries, rest)

section

variable {d : Data} {items : List Data} {entries : List (Key × Data)} {key first others : String}

theorem ReadBack.last (hd : ReadBack d first) : ItemsReadBack [d] first := by
  intro fuel gap rest hfuel hgap
  obtain ⟨fuel, rfl⟩ : ∃ n, fuel = n + 1 := ⟨fuel - 1, by omega⟩
  have hclose : StopsAt continues (gap ++ ']' :: rest) := stopsAt_gap hgap (stopsAt_cons.mpr rfl)
  exact readItems_last (hd fuel _ (by omega) hclose) (skipSpace_append hgap (stopsAt_cons.mpr rfl))

theorem ReadBack.more (hd : ReadBack d first) (hitems : ItemsReadBack items others)
    (hothers : Starts others) (pretty : Bool) (level : Nat) :
    ItemsReadBack (d :: items) (first ++ separator pretty level ++ others) := by
  intro fuel gap rest hfuel hgap
  obtain ⟨blank, hblank, hspace⟩ := toList_separator pretty level
  simp only [String.toList_append, hblank, List.append_assoc, List.cons_append, List.length_append,
    List.length_cons] at hfuel ⊢
  obtain ⟨fuel, rfl⟩ : ∃ n, fuel = n + 1 := ⟨fuel - 1, by omega⟩
  refine readItems_more (hd fuel _ (by omega) (stopsAt_cons.mpr rfl)) (skipSpace_cons rfl _) ?_
  rw [skipSpace_append hspace (hothers.stopsAt _)]
  exact hitems fuel gap rest (by omega) hgap

theorem ReadBack.lastEntry (hd : ReadBack d first) (hfirst : Starts first) :
    EntriesReadBack [(.text key, d)] (quote key ++ ": " ++ first) := by
  intro fuel gap rest hfuel hgap
  simp only [String.toList_append, List.append_assoc, List.length_append] at hfuel ⊢
  obtain ⟨fuel, rfl⟩ : ∃ n, fuel = n + 1 := ⟨fuel - 1, by omega⟩
  have hclose : StopsAt continues (gap ++ '\x7d' :: rest) :=
    stopsAt_gap hgap (stopsAt_cons.mpr rfl)
  exact readEntries_last (hfirst.stopsAt _) (hd fuel _ (by omega) hclose)
    (skipSpace_append hgap (stopsAt_cons.mpr rfl))

theorem ReadBack.moreEntries (hd : ReadBack d first) (hfirst : Starts first)
    (hentries : EntriesReadBack entries others) (hothers : Starts others) (pretty : Bool)
    (level : Nat) : EntriesReadBack ((.text key, d) :: entries)
      (quote key ++ ": " ++ first ++ separator pretty level ++ others) := by
  intro fuel gap rest hfuel hgap
  obtain ⟨blank, hblank, hspace⟩ := toList_separator pretty level
  simp only [String.toList_append, hblank, List.append_assoc, List.cons_append, List.length_append,
    List.length_cons] at hfuel ⊢
  obtain ⟨fuel, rfl⟩ : ∃ n, fuel = n + 1 := ⟨fuel - 1, by omega⟩
  refine readEntries_more (hfirst.stopsAt _) (hd fuel _ (by omega) (stopsAt_cons.mpr rfl))
    (skipSpace_cons rfl _) ?_
  rw [skipSpace_append hspace (hothers.stopsAt _)]
  exact hentries fuel gap rest (by omega) hgap

theorem ItemsReadBack.list (hitems : ItemsReadBack items others) (hothers : Starts others)
    {before after : List Char} (hbefore : ∀ c ∈ before, isSpace c = true)
    (hafter : ∀ c ∈ after, isSpace c = true)
    (htext : text.toList = '[' :: (before ++ (others.toList ++ (after ++ [']'])))) :
    ReadBack (.list items) text := by
  intro fuel rest hfuel _
  rw [htext] at hfuel ⊢
  simp only [List.cons_append, List.append_assoc, List.nil_append, List.length_cons,
    List.length_append, List.length_nil] at hfuel ⊢
  obtain ⟨fuel, rfl⟩ : ∃ n, fuel = n + 1 := ⟨fuel - 1, by omega⟩
  exact readData_list (skipSpace_append hbefore (hothers.stopsAt _)) (hothers.head?_ne _)
    (hitems fuel after rest (by omega) hafter)

theorem EntriesReadBack.map (hentries : EntriesReadBack entries others)
    (hquote : others.toList.head? = some '"')
    (hdistinct : Data.isJsonEntries [] entries = true)
    {before after : List Char} (hbefore : ∀ c ∈ before, isSpace c = true)
    (hafter : ∀ c ∈ after, isSpace c = true)
    (htext : text.toList = '\x7b' :: (before ++ (others.toList ++ (after ++ ['\x7d'])))) :
    ReadBack (.map entries) text := by
  intro fuel rest hfuel _
  rw [htext] at hfuel ⊢
  simp only [List.cons_append, List.append_assoc, List.nil_append, List.length_cons,
    List.length_append, List.length_nil] at hfuel ⊢
  obtain ⟨fuel, rfl⟩ : ∃ n, fuel = n + 1 := ⟨fuel - 1, by omega⟩
  have hstops := (starts_of_head? hquote).stopsAt (after ++ '\x7d' :: rest)
  have hstart : (others.toList ++ (after ++ '\x7d' :: rest)).head? = some '"' := by
    rw [List.head?_append, hquote, Option.some_or]
  rw [readData_map (skipSpace_append hbefore hstops) hstart
    (hentries fuel after rest (by omega) hafter), Data.ofEntries_eq hdistinct]

theorem readBack_int {n : Int} (h : renderAt pretty level (.int n) = .ok text) :
    ReadBack (.int n) text := by
  intro fuel rest hfuel hrest
  obtain ⟨fuel, rfl⟩ : ∃ n, fuel = n + 1 := ⟨fuel - 1, by omega⟩
  obtain ⟨c, cs, hcs⟩ := List.exists_cons_of_ne_nil (Number.toList_toString_ne_nil n)
  have hc := Number.mem_toString (n := n) (c := c) (hcs ▸ List.mem_cons_self)
  have hword := readWord_toString n rest
  have hnumber := readNumber_toString n hrest
  rw [renderAt, Number.write] at h
  split at h
  · cases h
  · cases h
    rw [hcs, List.cons_append] at hword hnumber ⊢
    rw [readData, hword, hnumber]
    · rfl
    -- none of the three other ways for data to start is a digit or a sign
    all_goals
      rintro rest ⟨⟩
      rcases hc with hc | hc <;> exact absurd hc (by decide)

theorem readBack_text (s : String) : ReadBack (.text s) (quote s) := by
  intro fuel rest hfuel _
  obtain ⟨fuel, rfl⟩ : ∃ n, fuel = n + 1 := ⟨fuel - 1, by omega⟩
  simp only [toList_quote, List.cons_append, List.append_assoc, List.nil_append, readData,
    readText_quote, Option.map_some]

end

mutual

/-- What is written is read back. -/
theorem readBack : ∀ (d : Data) {pretty : Bool} {level : Nat} {text : String},
    d.isJson = true → renderAt pretty level d = .ok text → ReadBack d text
  | .null => by
      intro _ h fuel rest hfuel _
      cases h
      obtain ⟨fuel, rfl⟩ : ∃ n, fuel = n + 1 := ⟨fuel - 1, by omega⟩
      rfl
  | .bool b => by
      intro _ h fuel rest hfuel _
      obtain ⟨fuel, rfl⟩ : ∃ n, fuel = n + 1 := ⟨fuel - 1, by omega⟩
      cases b <;> cases h <;> rfl
  | .int n => fun _ h => readBack_int h
  | .text s => by
      intro _ h
      cases h
      exact readBack_text s
  | .list [] => by
      intro _ h fuel rest hfuel _
      cases h
      obtain ⟨fuel, rfl⟩ : ∃ n, fuel = n + 1 := ⟨fuel - 1, by omega⟩
      rfl
  | .list (d :: items) => by
      intro hd h
      obtain ⟨parts, hparts, htext⟩ := renderAt_list h
      obtain ⟨hitems, hstarts⟩ := itemsReadBack (d :: items) hd (List.cons_ne_nil _ _) hparts
      exact hitems.list hstarts (fun c hc => isSpace_of_mem_lineBreak hc)
        (fun c hc => isSpace_of_mem_lineBreak hc) htext
  | .map [] => by
      intro _ h fuel rest hfuel _
      cases h
      obtain ⟨fuel, rfl⟩ : ∃ n, fuel = n + 1 := ⟨fuel - 1, by omega⟩
      rfl
  | .map (e :: entries) => by
      intro hd h
      obtain ⟨parts, hparts, htext⟩ := renderAt_map h
      obtain ⟨hentries, hquote⟩ :=
        entriesReadBack (e :: entries) hd (List.cons_ne_nil _ _) hparts
      exact hentries.map hquote hd (fun c hc => isSpace_of_mem_lineBreak hc)
        (fun c hc => isSpace_of_mem_lineBreak hc) htext
  | .float _ | .bytes _ | .foreign => nofun

theorem itemsReadBack : ∀ (items : List Data) {pretty : Bool} {level : Nat}
    {parts : List String}, Data.isJsonAll items = true → items ≠ [] →
    renderAll pretty level items = .ok parts →
    ItemsReadBack items ((separator pretty level).intercalate parts) ∧
      Starts ((separator pretty level).intercalate parts)
  | [] => by
      intro _ hne
      exact absurd rfl hne
  | [d] => by
      intro hd _ h
      obtain ⟨first, others, hfirst, hothers, rfl⟩ := renderAll_cons h
      cases hothers
      rw [Data.isJsonAll, Bool.and_eq_true] at hd
      rw [String.intercalate_singleton]
      exact ⟨(readBack d hd.1 hfirst).last, starts_renderAt hd.1 hfirst⟩
  | d :: d' :: items => by
      intro hd _ h
      obtain ⟨first, others, hfirst, hothers, rfl⟩ := renderAll_cons h
      rw [Data.isJsonAll, Bool.and_eq_true] at hd
      obtain ⟨hitems, hstarts⟩ := itemsReadBack (d' :: items) hd.2 (List.cons_ne_nil _ _) hothers
      obtain ⟨next, others, -, -, rfl⟩ := renderAll_cons hothers
      rw [String.intercalate_cons_cons]
      exact ⟨(readBack d hd.1 hfirst).more hitems hstarts _ _,
        ((starts_renderAt hd.1 hfirst).append _).append _⟩

theorem entriesReadBack : ∀ (entries : List (Key × Data)) {seen : List String} {pretty : Bool}
    {level : Nat} {parts : List String}, Data.isJsonEntries seen entries = true → entries ≠ [] →
    renderEntries pretty level entries = .ok parts →
    EntriesReadBack entries ((separator pretty level).intercalate parts) ∧
      ((separator pretty level).intercalate parts).toList.head? = some '"'
  | [] => by
      intro _ hne
      exact absurd rfl hne
  | [(.text k, d)] => by
      intro hd _ h
      obtain ⟨value, others, hvalue, hothers, rfl⟩ := renderEntries_cons h
      cases hothers
      rw [Data.isJsonEntries, Bool.and_eq_true, Bool.and_eq_true] at hd
      rw [String.intercalate_singleton]
      exact ⟨(readBack d hd.1.2 hvalue).lastEntry (starts_renderAt hd.1.2 hvalue),
        head?_append (head?_append (head?_quote k) _) _⟩
  | (.text k, d) :: (k', d') :: entries => by
      intro hd _ h
      obtain ⟨value, others, hvalue, hothers, rfl⟩ := renderEntries_cons h
      rw [Data.isJsonEntries, Bool.and_eq_true, Bool.and_eq_true] at hd
      obtain ⟨hentries, hquote⟩ :=
        entriesReadBack ((k', d') :: entries) hd.2 (List.cons_ne_nil _ _) hothers
      obtain ⟨next, others, -, -, rfl⟩ := renderEntries_cons hothers
      rw [String.intercalate_cons_cons]
      exact ⟨(readBack d hd.1.2 hvalue).moreEntries (starts_renderAt hd.1.2 hvalue) hentries
        (starts_of_head? hquote) _ _, head?_append (head?_append (head?_append (head?_append
          (head?_quote k) _) _) _) _⟩
  | (.null, _) :: _ | (.bool _, _) :: _ | (.int _, _) :: _ | (.float _, _) :: _ => nofun

end

theorem parse?_render {d : Data} (hd : d.isJson = true) (h : render pretty d = .ok text) :
    parse? text = some d := by
  have hskip : skipSpace text.toList = text.toList := by
    have hstops := (starts_renderAt hd h).stopsAt []
    rw [List.append_nil] at hstops
    exact skipSpace_of_stopsAt hstops
  have hread := readBack d hd h (text.toList.length + 1) [] (Nat.lt_succ_self _) nofun
  rw [List.append_nil] at hread
  simp only [parse?, hskip, hread]
  rfl

/-! ## When there is something to read -/

mutual

/-- Data is written unless an integer in it has too many digits. -/
theorem renderAt_cases : ∀ (d : Data) (pretty : Bool) (level : Nat), d.isJson = true →
    (d.mostDigits ≤ Number.maxDigits ∧ ∃ text, renderAt pretty level d = .ok text) ∨
    (Number.maxDigits < d.mostDigits ∧ renderAt pretty level d = .error (.tooManyDigits none))
  | .null, _, _, _ | .bool _, _, _, _ | .text _, _, _, _ => .inl ⟨Nat.zero_le _, _, rfl⟩
  | .int n, _, _, _ => by
      rw [Data.mostDigits, renderAt, Number.write, ← Nat.not_le, Number.length_toDigits_le]
      cases Number.isLong n with
      | false => exact .inl ⟨rfl, _, rfl⟩
      | true => exact .inr ⟨nofun, rfl⟩
  | .list [], _, _, _ | .map [], _, _, _ => .inl ⟨Nat.zero_le _, _, rfl⟩
  | .list (d :: items), pretty, level, hd => by
      rcases renderAll_cases (d :: items) pretty (level + 1) hd with ⟨hdigits, parts, hparts⟩ |
        ⟨hdigits, hparts⟩
      · refine .inl ⟨hdigits, ?_⟩
        rw [renderAt, hparts]
        · exact ⟨_, rfl⟩
        · exact nofun
      · refine .inr ⟨hdigits, ?_⟩
        rw [renderAt, hparts]
        · rfl
        · exact nofun
  | .map (e :: entries), pretty, level, hd => by
      rcases renderEntries_cases (e :: entries) pretty (level + 1) hd with
        ⟨hdigits, parts, hparts⟩ | ⟨hdigits, hparts⟩
      · refine .inl ⟨hdigits, ?_⟩
        rw [renderAt, hparts]
        · exact ⟨_, rfl⟩
        · exact nofun
      · refine .inr ⟨hdigits, ?_⟩
        rw [renderAt, hparts]
        · rfl
        · exact nofun
  | .float _, _, _, hd | .bytes _, _, _, hd | .foreign, _, _, hd => by cases hd

theorem renderAll_cases : ∀ (items : List Data) (pretty : Bool) (level : Nat),
    Data.isJsonAll items = true →
    (Data.mostDigitsAll items ≤ Number.maxDigits ∧
      ∃ parts, renderAll pretty level items = .ok parts) ∨
    (Number.maxDigits < Data.mostDigitsAll items ∧
      renderAll pretty level items = .error (.tooManyDigits none))
  | [], _, _, _ => .inl ⟨Nat.zero_le _, _, rfl⟩
  | d :: items, pretty, level, hd => by
      rw [Data.isJsonAll, Bool.and_eq_true] at hd
      rw [Data.mostDigitsAll, renderAll]
      rcases renderAt_cases d pretty level hd.1 with ⟨hdigits, first, hfirst⟩ | ⟨hdigits, hfirst⟩
      · rcases renderAll_cases items pretty level hd.2 with ⟨hrest, others, hothers⟩ |
          ⟨hrest, hothers⟩
        · exact .inl ⟨Nat.max_le.mpr ⟨hdigits, hrest⟩, _, by rw [hfirst, hothers]; rfl⟩
        · exact .inr ⟨Nat.lt_of_lt_of_le hrest (Nat.le_max_right _ _),
            by rw [hfirst, hothers]; rfl⟩
      · exact .inr ⟨Nat.lt_of_lt_of_le hdigits (Nat.le_max_left _ _), by rw [hfirst]; rfl⟩

theorem renderEntries_cases : ∀ (entries : List (Key × Data)) (pretty : Bool) (level : Nat)
    {seen : List String}, Data.isJsonEntries seen entries = true →
    (Data.mostDigitsEntries entries ≤ Number.maxDigits ∧
      ∃ parts, renderEntries pretty level entries = .ok parts) ∨
    (Number.maxDigits < Data.mostDigitsEntries entries ∧
      renderEntries pretty level entries = .error (.tooManyDigits none))
  | [], _, _, _, _ => .inl ⟨Nat.zero_le _, _, rfl⟩
  | (.text k, d) :: entries, pretty, level, _, hd => by
      rw [Data.isJsonEntries, Bool.and_eq_true, Bool.and_eq_true] at hd
      rw [Data.mostDigitsEntries, renderEntries]
      rcases renderAt_cases d pretty level hd.1.2 with ⟨hdigits, first, hfirst⟩ | ⟨hdigits, hfirst⟩
      · rcases renderEntries_cases entries pretty level hd.2 with ⟨hrest, others, hothers⟩ |
          ⟨hrest, hothers⟩
        · exact .inl ⟨Nat.max_le.mpr ⟨hdigits, hrest⟩, _, by rw [hfirst, hothers]; rfl⟩
        · exact .inr ⟨Nat.lt_of_lt_of_le hrest (Nat.le_max_right _ _),
            by rw [hfirst, hothers]; rfl⟩
      · exact .inr ⟨Nat.lt_of_lt_of_le hdigits (Nat.le_max_left _ _), by rw [hfirst]; rfl⟩
  | (.null, _) :: _, _, _, _, hd | (.bool _, _) :: _, _, _, _, hd | (.int _, _) :: _, _, _, _, hd
  | (.float _, _) :: _, _, _, _, hd => by cases hd

end

end Json

end Vimscript
