import AccountSessions.Proofs.JsonStrings
import AccountSessions.Proofs.Numerals

/-!
# Reading undoes writing

A value is legible if no decimal stands in it, its whole numbers have at most as many
digits as are read, its strings are characters, no object names a member twice and its
containers are nested no deeper than the bound.  A legible value is read back from its
compact form.

The reader spends one step of its fuel on each value and on each further item, so a fuel
of the length of the written form is enough for every part of it.
-/

namespace AccountSessions.Json

/-- Values that are read back, by the depth to which containers may be nested. -/
inductive Legible : Nat → Json → Prop where
  | null {depth : Nat} : Legible depth .null
  | bool {depth : Nat} (value : Bool) : Legible depth (.bool value)
  | int {depth : Nat} {value : Int} (hlimit : value.natAbs < 10 ^ WholeNumber.digitLimit) :
      Legible depth (.int value)
  | text {depth : Nat} (s : String) : Legible depth (.text s)
  | list {depth : Nat} {items : List Json} (hitems : ∀ item ∈ items, Legible depth item) :
      Legible (depth + 1) (.list items)
  | record {depth : Nat} {members : List (String × Json)}
      (hnames : (members.map Prod.fst).Nodup)
      (hvalues : ∀ member ∈ members, Legible depth member.2) :
      Legible (depth + 1) (.record members)

/-- What may stand behind a value within a container, or nothing at the end. -/
def Delimited (rest : List Char) : Prop :=
  ∀ c, rest.head? = some c → c = ',' ∨ c = ']' ∨ c = '}'

theorem delimited_nil : Delimited [] := by
  intro c hc
  cases hc

theorem delimited_cons {c : Char} (hc : c = ',' ∨ c = ']' ∨ c = '}') (rest : List Char) :
    Delimited (c :: rest) := by
  intro d hd
  injection hd with hd
  rw [← hd]
  exact hc

/-! ## Blanks -/

theorem skipSpace_cons {c : Char} (hc : isSpace c = false) (rest : List Char) :
    skipSpace (c :: rest) = c :: rest := by
  rw [skipSpace, List.dropWhile_cons_of_neg (by simp [hc])]

/-- The written form of a value begins with a character that is no blank, closes no
container and is no mark of byte order. -/
def StartsValue (cs : List Char) : Prop :=
  ∃ c rest, cs = c :: rest ∧ isSpace c = false ∧ c ≠ ']' ∧ c ≠ '\uFEFF'

theorem StartsValue.append {cs : List Char} (hstart : StartsValue cs) (rest : List Char) :
    StartsValue (cs ++ rest) := by
  obtain ⟨c, more, rfl, hspace, hbracket, hmark⟩ := hstart
  exact ⟨c, more ++ rest, rfl, hspace, hbracket, hmark⟩

theorem skipSpace_of_startsValue {cs : List Char} (hstart : StartsValue cs) :
    skipSpace cs = cs := by
  obtain ⟨c, rest, rfl, hspace, -, -⟩ := hstart
  exact skipSpace_cons hspace rest

theorem startsValue_of_isAsciiDigit
    {c : Char} (hc : WholeNumber.isAsciiDigit c = true) (rest : List Char) :
    StartsValue (c :: rest) := by
  have hcode := WholeNumber.toNat_lt_of_isAsciiDigit hc
  have hne : ∀ d : Char, d.toNat < 48 ∨ 58 ≤ d.toNat → c ≠ d := by
    rintro d hd rfl
    omega
  refine ⟨c, rest, rfl, ?_, hne ']' (by decide), hne '\uFEFF' (by decide)⟩
  simp only [isSpace, Bool.or_eq_false_iff, beq_eq_false_iff_ne]
  exact ⟨⟨⟨hne ' ' (by decide), hne '\t' (by decide)⟩, hne '\n' (by decide)⟩, hne '\r' (by decide)⟩

theorem startsValue_write {depth : Nat} {value : Json} (hlegible : Legible depth value) :
    StartsValue value.write := by
  cases hlegible with
  | null => exact ⟨'n', _, rfl, by decide, by decide, by decide⟩
  | bool value =>
      cases value with
      | false => exact ⟨'f', _, rfl, by decide, by decide, by decide⟩
      | true => exact ⟨'t', _, rfl, by decide, by decide, by decide⟩
  | @int _ value _ =>
      rw [write, WholeNumber.toList_toString, WholeNumber.spelled]
      split
      · exact ⟨'-', _, rfl, by decide, by decide, by decide⟩
      · rw [List.nil_append]
        cases hdigits : Nat.toDigits 10 value.natAbs with
        | nil => exact absurd hdigits Nat.toDigits_ne_nil
        | cons d rest =>
            exact startsValue_of_isAsciiDigit
              (WholeNumber.isAsciiDigit_of_mem_toDigits (by rw [hdigits]; exact List.mem_cons_self))
              rest
  | text s => exact ⟨'"', _, rfl, by decide, by decide, by decide⟩
  | list _ => exact ⟨'[', _, rfl, by decide, by decide, by decide⟩
  | record _ _ => exact ⟨'{', _, rfl, by decide, by decide, by decide⟩

/-! ## Whole numbers -/

theorem takeDigits_append
    {digits : List Char} (hdigits : ∀ c ∈ digits, WholeNumber.isAsciiDigit c = true)
    {rest : List Char} (hrest : Delimited rest) :
    takeDigits (digits ++ rest) = (digits, rest) := by
  have hstop : rest.takeWhile WholeNumber.isAsciiDigit = [] ∧
      rest.dropWhile WholeNumber.isAsciiDigit = rest := by
    cases rest with
    | nil => exact ⟨rfl, rfl⟩
    | cons c more =>
        have hc : WholeNumber.isAsciiDigit c = false := by
          rcases hrest c rfl with rfl | rfl | rfl <;> decide
        exact ⟨List.takeWhile_cons_of_neg (by simp [hc]), List.dropWhile_cons_of_neg (by simp [hc])⟩
  rw [takeDigits, List.takeWhile_append_of_pos hdigits, List.dropWhile_append_of_pos hdigits,
    hstop.1, hstop.2, List.append_nil]

theorem takeFraction_delimited {rest : List Char} (hrest : Delimited rest) :
    takeFraction rest = ([], rest) := by
  rw [takeFraction.eq_def]
  split
  next => rcases hrest '.' rfl with h | h | h <;> cases h
  next => rfl

theorem takeExponent_delimited {rest : List Char} (hrest : Delimited rest) :
    takeExponent rest = ([], rest) := by
  cases rest with
  | nil => rfl
  | cons c more =>
      have hc : ¬ (c = 'e' ∨ c = 'E') := by
        rcases hrest c rfl with rfl | rfl | rfl <;> decide
      exact if_neg hc

theorem takeWhole_toDigits (n : Nat) {rest : List Char} (hrest : Delimited rest) :
    takeWhole (Nat.toDigits 10 n ++ rest) = (Nat.toDigits 10 n, rest) := by
  have hdigits : ∀ c ∈ Nat.toDigits 10 n, WholeNumber.isAsciiDigit c = true :=
    fun c hc => WholeNumber.isAsciiDigit_of_mem_toDigits hc
  rcases Nat.eq_zero_or_pos n with rfl | hpos
  · rfl
  · have hhead := WholeNumber.head?_toDigits_of_pos hpos
    rw [takeWhole.eq_def]
    split
    next heq =>
      cases hcase : Nat.toDigits 10 n with
      | nil => exact absurd hcase Nat.toDigits_ne_nil
      | cons d more =>
          rw [hcase, List.cons_append] at heq
          injection heq with heq
          rw [hcase, heq] at hhead
          exact absurd rfl hhead
    next => exact takeDigits_append hdigits hrest

theorem takeDash_spelled (value : Int) (rest : List Char) :
    takeDash (WholeNumber.spelled value ++ rest) =
      (decide (value < 0), Nat.toDigits 10 value.natAbs ++ rest) := by
  rw [WholeNumber.spelled]
  split
  next hneg =>
    rw [decide_eq_true hneg]
    rfl
  next hnonneg =>
    rw [decide_eq_false hnonneg, List.nil_append, takeDash.eq_def]
    split
    next heq =>
      cases hcase : Nat.toDigits 10 value.natAbs with
      | nil => exact absurd hcase Nat.toDigits_ne_nil
      | cons d more =>
          have hd : WholeNumber.isAsciiDigit d = true :=
            WholeNumber.isAsciiDigit_of_mem_toDigits (by rw [hcase]; exact List.mem_cons_self)
          rw [hcase, List.cons_append] at heq
          injection heq with heq
          rw [heq] at hd
          exact absurd hd (by decide)
    next => rfl

theorem takeNumeral_spelled (value : Int) {rest : List Char} (hrest : Delimited rest) :
    takeNumeral (WholeNumber.spelled value ++ rest) =
      some (⟨decide (value < 0), Nat.toDigits 10 value.natAbs, [], []⟩, rest) := by
  simp only [takeNumeral, takeDash_spelled, takeWhole_toDigits _ hrest, Nat.toDigits_ne_nil,
    if_false, takeFraction_delimited hrest, takeExponent_delimited hrest]

/-! ## Values that are no containers -/

theorem readWord?_of_isAsciiDigit
    {c : Char} (hc : WholeNumber.isAsciiDigit c = true) (rest : List Char) :
    readWord? (c :: rest) = none := by
  have hcode := WholeNumber.toNat_lt_of_isAsciiDigit hc
  have hne : ∀ d : Char, d.toNat < 48 ∨ 58 ≤ d.toNat → (d == c) = false := by
    intro d hd
    rw [beq_eq_false_iff_ne]
    rintro rfl
    omega
  simp only [readWord?, words, List.findSome?_cons, List.findSome?_nil, String.reduceToList,
    List.isPrefixOf, hne 'n' (by decide), hne 't' (by decide), hne 'f' (by decide),
    hne 'N' (by decide), hne 'I' (by decide), hne '-' (by decide), Bool.false_and,
    Bool.false_eq_true, if_false]

theorem readWord?_dash
    {c : Char} (hc : WholeNumber.isAsciiDigit c = true) (rest : List Char) :
    readWord? ('-' :: c :: rest) = none := by
  have hne : ('I' == c) = false := by
    rw [beq_eq_false_iff_ne]
    rintro rfl
    exact absurd hc (by decide)
  have hdash : ('n' == '-') = false ∧ ('t' == '-') = false ∧ ('f' == '-') = false ∧
      ('N' == '-') = false ∧ ('I' == '-') = false := by decide
  simp only [readWord?, words, List.findSome?_cons, List.findSome?_nil, String.reduceToList,
    List.isPrefixOf, hdash, hne, Bool.false_and, Bool.and_false, Bool.false_eq_true, if_false]

theorem readWord?_spelled (value : Int) (rest : List Char) :
    readWord? (WholeNumber.spelled value ++ rest) = none := by
  cases hdigits : Nat.toDigits 10 value.natAbs with
  | nil => exact absurd hdigits Nat.toDigits_ne_nil
  | cons d more =>
      have hd : WholeNumber.isAsciiDigit d = true :=
        WholeNumber.isAsciiDigit_of_mem_toDigits (by rw [hdigits]; exact List.mem_cons_self)
      rw [WholeNumber.spelled, hdigits]
      split
      · exact readWord?_dash hd (more ++ rest)
      · exact readWord?_of_isAsciiDigit hd (more ++ rest)

theorem readScalar_spelled
    {value : Int} (hlimit : value.natAbs < 10 ^ WholeNumber.digitLimit)
    {rest : List Char} (hrest : Delimited rest) :
    readScalar .values (WholeNumber.spelled value ++ rest) = .ok (.int value, rest) := by
  have hlength :
      ¬ WholeNumber.digitLimit < (Nat.toDigits 10 value.natAbs).length :=
    Nat.not_lt.mpr ((Nat.length_toDigits_le_iff (by decide) (by decide)).mpr hlimit)
  simp only [readScalar, readWord?_spelled, takeNumeral_spelled value hrest, Numeral.read,
    Numeral.isWhole, List.isEmpty_nil, Bool.and_self, Bool.not_true, Bool.false_eq_true, if_false,
    hlength, WholeNumber.valueOf_toDigits, WholeNumber.applySign_natAbs]

theorem readValue_scalar
    {c : Char} (hquote : c ≠ '"') (hbracket : c ≠ '[') (hbrace : c ≠ '{')
    (numbers : NumberReading) (fuel depth : Nat) (rest : List Char) :
    readValue numbers (fuel + 1) depth (c :: rest) = readScalar numbers (c :: rest) := by
  rw [readValue.eq_def]
  dsimp only
  split
  next heq =>
    injection heq with heq
    exact absurd heq hquote
  next heq =>
    injection heq with heq
    exact absurd heq hbracket
  next heq =>
    injection heq with heq
    exact absurd heq hbrace
  next => rfl

theorem readValue_spelled
    {value : Int} (hlimit : value.natAbs < 10 ^ WholeNumber.digitLimit)
    {rest : List Char} (hrest : Delimited rest) (fuel depth : Nat) :
    readValue .values (fuel + 1) depth (WholeNumber.spelled value ++ rest) =
      .ok (.int value, rest) := by
  have hscalar : ∀ c more, WholeNumber.spelled value = c :: more →
      c ≠ '"' → c ≠ '[' → c ≠ '{' →
      readValue .values (fuel + 1) depth (WholeNumber.spelled value ++ rest) =
        .ok (.int value, rest) := by
    intro c more hspelled hquote hbracket hbrace
    rw [← readScalar_spelled hlimit hrest, hspelled, List.cons_append]
    exact readValue_scalar hquote hbracket hbrace .values fuel depth (more ++ rest)
  cases hdigits : Nat.toDigits 10 value.natAbs with
  | nil => exact absurd hdigits Nat.toDigits_ne_nil
  | cons d more =>
      have hd : WholeNumber.isAsciiDigit d = true :=
        WholeNumber.isAsciiDigit_of_mem_toDigits (by rw [hdigits]; exact List.mem_cons_self)
      by_cases hneg : value < 0
      · refine hscalar '-' (d :: more) ?_ (by decide) (by decide) (by decide)
        rw [WholeNumber.spelled, if_pos hneg, hdigits]
        rfl
      · have hspelled : WholeNumber.spelled value = d :: more := by
          rw [WholeNumber.spelled, if_neg hneg, hdigits]
          rfl
        refine hscalar d more hspelled ?_ ?_ ?_ <;>
        · rintro rfl
          exact absurd hd (by decide)

theorem readValue_text
    (numbers : NumberReading) (fuel depth : Nat) (s : String) (rest : List Char) :
    readValue numbers (fuel + 1) depth (writeString (.plain s) ++ rest) =
      .ok (.text s, rest) := by
  have hstring := readString_plain s
    ('"' :: ((JsonString.plain s).codes.flatMap writeCode ++ '"' :: rest)) rest
  simp only [writeString, List.cons_append, List.append_assoc, List.nil_append, readValue,
    hstring]
  rfl

/-! ## Containers -/

theorem readValue_bracket
    {cs : List Char} (hstart : StartsValue cs)
    (numbers : NumberReading) (fuel depth : Nat) :
    readValue numbers (fuel + 1) (depth + 1) ('[' :: cs) = readItems numbers fuel depth [] cs := by
  obtain ⟨c, rest, rfl, hspace, hbracket, -⟩ := hstart
  rw [readValue, skipSpace_cons hspace]
  split
  next heq =>
    injection heq with heq
    exact absurd heq hbracket
  next => rfl

theorem readValue_brace
    (numbers : NumberReading) (fuel depth : Nat) (rest : List Char) :
    readValue numbers (fuel + 1) (depth + 1) ('{' :: '"' :: rest) =
      readMembers numbers fuel depth [] ('"' :: rest) := by
  rw [readValue, skipSpace_cons (by decide)]
  split
  next heq =>
    injection heq with heq
    exact absurd heq (by decide)
  next => rfl

def ReadsBack (fuel depth : Nat) (value : Json) : Prop :=
  ∀ rest, value.write.length ≤ fuel → Delimited rest →
    readValue .values fuel depth (value.write ++ rest) = .ok (value, rest)

theorem readItems_writeItems
    {depth : Nat} {items : List Json} (hne : items ≠ [])
    (hlegible : ∀ item ∈ items, Legible depth item)
    (hreads : ∀ item ∈ items, ∀ fuel, ReadsBack fuel depth item)
    {fuel : Nat} (hfuel : (writeItems items).length ≤ fuel)
    (before : List Json) (rest : List Char) :
    readItems .values fuel depth before (writeItems items ++ rest) =
      .ok (.list (before.reverse ++ items), rest) := by
  induction items generalizing fuel before with
  | nil => exact absurd rfl hne
  | cons item more ih =>
      have hitem := hreads item List.mem_cons_self
      cases more with
      | nil =>
          rw [writeItems, List.length_append, List.length_singleton] at hfuel
          obtain ⟨fuel, rfl⟩ : ∃ n, fuel = n + 1 := ⟨fuel - 1, by omega⟩
          have hread := hitem fuel (']' :: rest) (by omega) (delimited_cons (by simp) rest)
          have hbracket : isSpace ']' = false := by decide
          rw [writeItems, List.append_assoc, List.singleton_append, readItems, hread]
          simp only [skipSpace_cons hbracket, List.reverse_cons]
      | cons next others =>
          have hlength :
              (writeItems (item :: next :: others)).length =
                item.write.length + (writeItems (next :: others)).length + 1 := by
            rw [writeItems, List.length_append, List.length_cons]
            · omega
            · exact List.cons_ne_nil _ _
          rw [hlength] at hfuel
          obtain ⟨fuel, rfl⟩ : ∃ n, fuel = n + 1 := ⟨fuel - 1, by omega⟩
          have hread := hitem fuel (',' :: (writeItems (next :: others) ++ rest)) (by omega)
            (delimited_cons (by simp) _)
          have hcomma : isSpace ',' = false := by decide
          have hstart : skipSpace (writeItems (next :: others) ++ rest) =
              writeItems (next :: others) ++ rest := by
            have hnext := startsValue_write (hlegible next (by simp))
            refine skipSpace_of_startsValue (StartsValue.append ?_ rest)
            cases others with
            | nil => exact hnext.append _
            | cons third fourth => exact hnext.append _
          have hrest := ih (List.cons_ne_nil _ _)
            (fun i hi => hlegible i (List.mem_cons_of_mem item hi))
            (fun i hi => hreads i (List.mem_cons_of_mem item hi))
            (show (writeItems (next :: others)).length ≤ fuel by omega) (item :: before)
          rw [writeItems, List.append_assoc, List.cons_append, readItems, hread]
          · simp only [skipSpace_cons hcomma, hstart, hrest, List.reverse_cons, List.append_assoc,
              List.singleton_append]
          · exact List.cons_ne_nil _ _

def named (members : List (String × Json)) : List (JsonString × Json) :=
  members.map fun (name, value) => (.plain name, value)

theorem named_cons (name : String) (value : Json) (members : List (String × Json)) :
    named ((name, value) :: members) = (.plain name, value) :: named members :=
  rfl

theorem foldl_put
    {members : List (JsonString × Json)} (before : List (JsonString × Json))
    (hnames : ((before ++ members).map Prod.fst).Nodup) :
    members.foldl (fun ms m => put ms m.1 m.2) before = before ++ members := by
  induction members generalizing before with
  | nil => rw [List.foldl_nil, List.append_nil]
  | cons member more ih =>
      have hnew : before.any (·.1 == member.1) = false := by
        rw [List.map_append, List.map_cons, List.nodup_append] at hnames
        rw [List.any_eq_false]
        intro other hother heq
        exact hnames.2.2 other.1 (List.mem_map_of_mem hother) member.1 List.mem_cons_self
          (eq_of_beq heq)
      have hput : put before member.1 member.2 = before ++ [member] := by
        simp [put, hnew]
      have hrest := ih (before ++ [member]) (by simpa using hnames)
      rw [List.foldl_cons, hput, hrest, List.append_assoc, List.singleton_append]

theorem nodup_named {members : List (String × Json)}
    (hnames : (members.map Prod.fst).Nodup) :
    ((named members).map Prod.fst).Nodup := by
  have hmap : (named members).map Prod.fst = (members.map Prod.fst).map JsonString.plain := by
    simp [named, List.map_map, Function.comp_def]
  rw [hmap]
  exact hnames.map fun a b hab => by injection hab

section Member

variable (name : String) {value : Json} {depth fuel : Nat} (hvalue : Legible depth value)
  (hreads : ReadsBack fuel depth value) (hfuel : value.write.length ≤ fuel)
  (before : List (JsonString × Json))

include hvalue hreads hfuel

theorem readMembers_brace (rest : List Char) :
    readMembers .values (fuel + 1) depth before
        (writeString (.plain name) ++ (':' :: (value.write ++ '}' :: rest))) =
      .ok (.object (((.plain name, value) :: before).reverse.foldl
        (fun ms m => put ms m.1 m.2) []), rest) := by
  have hcolon : isSpace ':' = false := by decide
  have hbrace : isSpace '}' = false := by decide
  have hname := readString_plain name
    ('"' :: ((JsonString.plain name).codes.flatMap writeCode ++
      '"' :: (':' :: (value.write ++ '}' :: rest))))
    (':' :: (value.write ++ '}' :: rest))
  have hstart : skipSpace (value.write ++ '}' :: rest) = value.write ++ '}' :: rest :=
    skipSpace_of_startsValue ((startsValue_write hvalue).append _)
  have hmember := hreads ('}' :: rest) hfuel (delimited_cons (by simp) rest)
  simp only [writeString, List.cons_append, List.append_assoc, List.nil_append, readMembers,
    hname, skipSpace_cons hcolon, hstart, hmember, skipSpace_cons hbrace]

theorem readMembers_comma (rest : List Char) :
    readMembers .values (fuel + 1) depth before
        (writeString (.plain name) ++ (':' :: (value.write ++ ',' :: rest))) =
      readMembers .values fuel depth ((.plain name, value) :: before) (skipSpace rest) := by
  have hcolon : isSpace ':' = false := by decide
  have hcomma : isSpace ',' = false := by decide
  have hname := readString_plain name
    ('"' :: ((JsonString.plain name).codes.flatMap writeCode ++
      '"' :: (':' :: (value.write ++ ',' :: rest))))
    (':' :: (value.write ++ ',' :: rest))
  have hstart : skipSpace (value.write ++ ',' :: rest) = value.write ++ ',' :: rest :=
    skipSpace_of_startsValue ((startsValue_write hvalue).append _)
  have hmember := hreads (',' :: rest) hfuel (delimited_cons (by simp) rest)
  simp only [writeString, List.cons_append, List.append_assoc, List.nil_append, readMembers,
    hname, skipSpace_cons hcolon, hstart, hmember, skipSpace_cons hcomma]

end Member

theorem readMembers_writeMembers
    {depth : Nat} {members : List (String × Json)} (hne : members ≠ [])
    (hlegible : ∀ member ∈ members, Legible depth member.2)
    (hreads : ∀ member ∈ members, ∀ fuel, ReadsBack fuel depth member.2)
    {fuel : Nat} (hfuel : (writeMembers (named members)).length ≤ fuel)
    (before : List (JsonString × Json)) (rest : List Char) :
    readMembers .values fuel depth before (writeMembers (named members) ++ rest) =
      .ok (.object ((before.reverse ++ named members).foldl (fun ms m => put ms m.1 m.2) []),
        rest) := by
  induction members generalizing fuel before with
  | nil => exact absurd rfl hne
  | cons member more ih =>
      obtain ⟨name, value⟩ := member
      have hmember : ∀ fuel, ReadsBack fuel depth value := hreads (name, value) List.mem_cons_self
      have hvalue : Legible depth value := hlegible (name, value) List.mem_cons_self
      cases more with
      | nil =>
          have hlength : (writeMembers (named [(name, value)])).length =
              (writeString (.plain name)).length + value.write.length + 2 := by
            simp only [named, List.map_cons, List.map_nil, writeMembers, List.length_append,
              List.length_cons, List.length_nil]
            omega
          rw [hlength] at hfuel
          obtain ⟨fuel, rfl⟩ : ∃ n, fuel = n + 1 := ⟨fuel - 1, by omega⟩
          have hread := readMembers_brace name hvalue (hmember fuel) (by omega) before rest
          simp only [named, List.map_cons, List.map_nil, writeMembers, List.append_assoc,
            List.cons_append, List.nil_append, hread, List.reverse_cons]
      | cons next others =>
          have hwrite : writeMembers (named ((name, value) :: next :: others)) =
              writeString (.plain name) ++
                (':' :: (value.write ++ ',' :: writeMembers (named (next :: others)))) := by
            rw [named_cons, writeMembers, List.append_assoc, List.cons_append]
            exact List.cons_ne_nil _ _
          have hlength : (writeMembers (named ((name, value) :: next :: others))).length =
              (writeString (.plain name)).length + value.write.length +
                (writeMembers (named (next :: others))).length + 2 := by
            simp only [hwrite, List.length_append, List.length_cons]
            omega
          rw [hlength] at hfuel
          obtain ⟨fuel, rfl⟩ : ∃ n, fuel = n + 1 := ⟨fuel - 1, by omega⟩
          have hstart : skipSpace (writeMembers (named (next :: others)) ++ rest) =
              writeMembers (named (next :: others)) ++ rest := by
            cases others <;> exact skipSpace_cons (by decide) _
          have hread := readMembers_comma name hvalue (hmember fuel) (by omega) before
            (writeMembers (named (next :: others)) ++ rest)
          have hrest := ih (List.cons_ne_nil _ _)
            (fun m hm => hlegible m (List.mem_cons_of_mem _ hm))
            (fun m hm => hreads m (List.mem_cons_of_mem _ hm))
            (show (writeMembers (named (next :: others))).length ≤ fuel by omega)
            ((.plain name, value) :: before)
          rw [hstart, hrest] at hread
          rw [hwrite, List.append_assoc, List.cons_append, List.append_assoc, List.cons_append,
            hread, List.reverse_cons, List.append_assoc, List.singleton_append]
          rfl

/-! ## Every legible value -/

theorem StartsValue.exists_fuel
    {cs : List Char} (hstart : StartsValue cs) {fuel : Nat} (hfuel : cs.length ≤ fuel) :
    ∃ n, fuel = n + 1 := by
  obtain ⟨c, rest, rfl, -⟩ := hstart
  rw [List.length_cons] at hfuel
  exact ⟨fuel - 1, by omega⟩

theorem readsBack_of_legible {depth : Nat} {value : Json} (hlegible : Legible depth value) :
    ∀ fuel, ReadsBack fuel depth value := by
  induction hlegible with
  | null =>
      intro fuel rest hfuel hrest
      obtain ⟨fuel, rfl⟩ := (startsValue_write (@Legible.null 0)).exists_fuel hfuel
      exact readValue_scalar (by decide) (by decide) (by decide) .values fuel _ _
  | bool value =>
      intro fuel rest hfuel hrest
      obtain ⟨fuel, rfl⟩ := (startsValue_write (@Legible.bool 0 value)).exists_fuel hfuel
      cases value with
      | false => exact readValue_scalar (by decide) (by decide) (by decide) .values fuel _ _
      | true => exact readValue_scalar (by decide) (by decide) (by decide) .values fuel _ _
  | int hlimit =>
      intro fuel rest hfuel hrest
      obtain ⟨fuel, rfl⟩ := (startsValue_write (@Legible.int 0 _ hlimit)).exists_fuel hfuel
      rw [write, WholeNumber.toList_toString]
      exact readValue_spelled hlimit hrest fuel _
  | text s =>
      intro fuel rest hfuel hrest
      obtain ⟨fuel, rfl⟩ := (startsValue_write (@Legible.text 0 s)).exists_fuel hfuel
      exact readValue_text .values fuel _ s rest
  | @list depth items hitems ih =>
      intro fuel rest hfuel hrest
      obtain ⟨fuel, rfl⟩ := (startsValue_write (.list hitems)).exists_fuel hfuel
      cases items with
      | nil => rfl
      | cons item more =>
          have hstart : StartsValue (writeItems (item :: more) ++ rest) := by
            have hitem := startsValue_write (hitems item List.mem_cons_self)
            cases more <;> exact (hitem.append _).append rest
          rw [write, List.length_cons] at hfuel
          rw [write, List.cons_append, readValue_bracket hstart,
            readItems_writeItems (List.cons_ne_nil item more) hitems ih
              (Nat.le_of_succ_le_succ hfuel) [] rest]
          rfl
  | @record depth members hnames hvalues ih =>
      intro fuel rest hfuel hrest
      obtain ⟨fuel, rfl⟩ := (startsValue_write (.record hnames hvalues)).exists_fuel hfuel
      cases members with
      | nil => rfl
      | cons member more =>
          obtain ⟨tail, htail⟩ :
              ∃ tail, writeMembers (named (member :: more)) ++ rest = '"' :: tail := by
            cases more <;> exact ⟨_, rfl⟩
          change (write (.object (named (member :: more)))).length ≤ _ at hfuel
          rw [write, List.length_cons] at hfuel
          have hread := readMembers_writeMembers (List.cons_ne_nil member more) hvalues ih
            (Nat.le_of_succ_le_succ hfuel) [] rest
          rw [List.reverse_nil, List.nil_append, foldl_put [] (by simpa using nodup_named hnames),
            List.nil_append, htail] at hread
          show readValue .values (fuel + 1) (depth + 1)
              (write (.object (named (member :: more))) ++ rest) =
            .ok (.object (named (member :: more)), rest)
          rw [write, List.cons_append, htail, readValue_brace, hread]

/-- Reading the compact form of a legible value gives the value. -/
theorem read_write {value : Json} (hlegible : Legible nestingLimit value) :
    read value.write = .ok value := by
  have hstart := startsValue_write hlegible
  have hread := readsBack_of_legible hlegible (2 * value.write.length + 2) [] (by omega)
    delimited_nil
  rw [List.append_nil] at hread
  obtain ⟨c, rest, hwrite, hspace, -, hmark⟩ := hstart
  rw [hwrite] at hread ⊢
  rw [read, readWith.eq_def]
  split
  next heq =>
    injection heq with heq
    exact absurd heq hmark
  next =>
    rw [skipSpace_cons hspace, hread]
    rfl

end AccountSessions.Json
