import AccountSessions.Password.Hasher
import AccountSessions.Proofs.Numerals
import AccountSessions.Proofs.Utf8
import Mathlib.Data.Bool.AllAny

/-!
# Hashes accept their passwords

A hash names the setting under which it was computed.  Whoever reads it back computes the
same hash from the same password, so a password is accepted by every hash that was made
of it.
-/

namespace AccountSessions.Password.Bcrypt

/-! ## Plain characters -/

/-- A character of one byte that does not part the fields of a hash. -/
def Plain (c : Char) : Prop :=
  c.toNat < 0x80 ∧ c ≠ '$'

theorem asciiChars_asciiBytes {cs : List Char} (hplain : ∀ c ∈ cs, Plain c) :
    asciiChars (asciiBytes cs) = cs := by
  rw [asciiChars, asciiBytes, List.map_map]
  calc
    cs.map _ = cs.map id := by
      apply List.map_congr_left
      intro c hc
      have hbyte : c.toNat.toUInt8.toNat = c.toNat :=
        Text.Utf8.toNat_toUInt8 (Nat.lt_trans (hplain c hc).1 (by decide))
      rw [Function.comp_apply, hbyte, Char.ofNat_toNat, id]
    _ = cs := List.map_id cs

theorem dollar_not_mem {cs : List Char} (hplain : ∀ c ∈ cs, Plain c) : 0x24 ∉ asciiBytes cs := by
  intro hmem
  obtain ⟨c, hc, hbyte⟩ := List.mem_map.mp hmem
  have hcode : c.toNat.toUInt8.toNat = c.toNat :=
    Text.Utf8.toNat_toUInt8 (Nat.lt_trans (hplain c hc).1 (by decide))
  rw [hbyte] at hcode
  apply (hplain c hc).2
  rw [← Char.ofNat_toNat c, ← hcode]
  rfl

theorem plain_letter {value : Nat} (hvalue : value < 64) : Plain (letter value) := by
  have hall : ∀ v < 64, (letter v).toNat < 0x80 ∧ letter v ≠ '$' := by decide
  exact hall value hvalue

theorem plain_encode (bytes : List UInt8) : ∀ c ∈ encode bytes, Plain c := by
  have hbyte : ∀ byte : UInt8, byte.toNat < 256 := fun byte => byte.toNat_lt
  induction bytes using encode.induct with
  | case1 => simp [encode]
  | case2 a =>
      have ha := hbyte a
      intro c hc
      simp only [encode, List.mem_cons, List.not_mem_nil, or_false] at hc
      rcases hc with rfl | rfl
      · exact plain_letter (by omega)
      · exact plain_letter (by omega)
  | case3 a b =>
      have ha := hbyte a
      have hb := hbyte b
      intro c hc
      simp only [encode, List.mem_cons, List.not_mem_nil, or_false] at hc
      rcases hc with rfl | rfl | rfl
      · exact plain_letter (by omega)
      · exact plain_letter (by omega)
      · exact plain_letter (by omega)
  | case4 a b c rest ih =>
      have ha := hbyte a
      have hb := hbyte b
      have hc := hbyte c
      intro d hd
      simp only [encode, List.mem_cons] at hd
      rcases hd with rfl | rfl | rfl | rfl | hd
      · exact plain_letter (by omega)
      · exact plain_letter (by omega)
      · exact plain_letter (by omega)
      · exact plain_letter (by omega)
      · exact ih d hd

theorem asciiBytes_append (first second : List Char) :
    asciiBytes (first ++ second) = asciiBytes first ++ asciiBytes second :=
  List.map_append

theorem asciiBytes_dollar (cs : List Char) : asciiBytes ('$' :: cs) = 0x24 :: asciiBytes cs :=
  rfl

/-! ## Settings -/

/-- What a hash can be computed under. -/
structure Setting.Valid (setting : Setting) : Prop where
  version : setting.version ∈ versions
  least : minCost ≤ setting.cost
  greatest : setting.cost ≤ maxCost
  salt : ∀ c ∈ setting.salt, Plain c
  saltBytes : (saltBytes? (asciiBytes setting.salt)).isSome = true

theorem cost?_costDigits {cost : Nat} (hleast : minCost ≤ cost) (hgreatest : cost ≤ maxCost) :
    cost? (asciiBytes (costDigits cost)) = some cost := by
  have hall : ∀ c < 32, 4 ≤ c → cost? (asciiBytes (costDigits c)) = some c := by decide
  exact hall cost (Nat.lt_succ_of_le hgreatest) hleast

theorem plain_costDigits {cost : Nat} (hgreatest : cost ≤ maxCost) :
    ∀ c ∈ costDigits cost, Plain c := by
  have hall : ∀ c < 32, (costDigits c).all fun d => decide (d.toNat < 0x80 ∧ d ≠ '$') := by decide
  show ∀ d ∈ costDigits cost, d.toNat < 0x80 ∧ d ≠ '$'
  exact List.all_iff_forall_prop.mp (hall cost (Nat.lt_succ_of_le hgreatest))

theorem plain_version {version : List Char} (hversion : version ∈ versions) :
    version ≠ [] ∧ ∀ c ∈ version, Plain c := by
  have hall : ∀ version ∈ versions,
      version ≠ [] ∧ version.all fun c => decide (c.toNat < 0x80 ∧ c ≠ '$') := by
    decide
  obtain ⟨hnonempty, hplain⟩ := hall version hversion
  refine ⟨hnonempty, ?_⟩
  show ∀ c ∈ version, c.toNat < 0x80 ∧ c ≠ '$'
  exact List.all_iff_forall_prop.mp hplain

theorem length_of_saltBytes? {letters : List UInt8} (hsome : (saltBytes? letters).isSome = true) :
    letters.length = saltLength := by
  unfold saltBytes? at hsome
  split at hsome
  next hlength => exact hlength
  next => cases hsome

namespace Setting

variable {setting : Setting}

/-- A hash names the setting that it was computed under. -/
theorem Valid.setting?_write (hvalid : setting.Valid) (password : List UInt8) :
    setting? (asciiBytes (write setting password)) = some setting := by
  obtain ⟨hnonempty, hversion⟩ := plain_version hvalid.version
  have hcost := plain_costDigits hvalid.greatest
  have hlength := length_of_saltBytes? hvalid.saltBytes
  obtain ⟨salt, hsalt⟩ := Option.isSome_iff_exists.mp hvalid.saltBytes
  let sum :=
    encode (checksum setting.cost ((saltBytes? (asciiBytes setting.salt)).getD []) password)
  have hlast : 0x24 ∉ asciiBytes setting.salt ++ asciiBytes sum := by
    rw [List.mem_append, not_or]
    exact ⟨dollar_not_mem hvalid.salt, dollar_not_mem (plain_encode _)⟩
  have hwritten : asciiBytes (write setting password) =
      [] ++ 0x24 :: (asciiBytes setting.version ++ 0x24 :: (asciiBytes (costDigits setting.cost) ++
        0x24 :: (asciiBytes setting.salt ++ asciiBytes sum))) := by
    simp only [write, asciiBytes_append, asciiBytes_dollar, List.append_assoc, List.nil_append,
      List.cons_append, sum]
  have hfields : (Text.fields 0x24 (asciiBytes (write setting password))).filter (· ≠ []) =
      [asciiBytes setting.version, asciiBytes (costDigits setting.cost),
        asciiBytes setting.salt ++ asciiBytes sum] := by
    have hsaltNonempty : setting.salt ≠ [] := by
      intro hnil
      rw [hnil] at hlength
      cases hlength
    rw [hwritten, Text.fields_append_cons List.not_mem_nil,
      Text.fields_append_cons (dollar_not_mem hversion),
      Text.fields_append_cons (dollar_not_mem hcost), Text.fields_of_not_mem hlast]
    simp [hsaltNonempty, hnonempty, asciiBytes, costDigits]
  have htake : (asciiBytes setting.salt ++ asciiBytes sum).take saltLength =
      asciiBytes setting.salt := by
    rw [← hlength, List.take_left]
  rw [setting?, hfields]
  simp [htake, asciiChars_asciiBytes hversion, asciiChars_asciiBytes hvalid.salt,
    cost?_costDigits hvalid.least hvalid.greatest, hsalt, hvalid.version]

/-- A password matches every hash that was computed from it. -/
theorem Valid.matches?_write (hvalid : setting.Valid) {password : List UInt8}
    (hshort : password.length ≤ passwordLimit) :
    matches? password (asciiBytes (write setting password)) = some true := by
  rw [matches?, if_neg (Nat.not_lt.mpr hshort), hvalid.setting?_write]
  simp

theorem Valid.encode_write (hvalid : setting.Valid) (password : List UInt8) :
    Text.Utf8.encode (write setting password) = asciiBytes (write setting password) := by
  apply Text.Utf8.encode_ascii
  intro c hc
  simp only [write, List.mem_append, List.mem_cons] at hc
  rcases hc with (((rfl | hc) | rfl | hc) | rfl | hc) | hc
  · decide
  · exact ((plain_version hvalid.version).2 c hc).1
  · decide
  · exact (plain_costDigits hvalid.greatest c hc).1
  · decide
  · exact (hvalid.salt c hc).1
  · exact (plain_encode _ c hc).1

end Setting

/-! ## Salts -/

/-- The letters of the alphabet in the order of their values. -/
def alphabet : List Char :=
  "./ABCDEFGHIJKLMNOPQRSTUVWXYZabcdefghijklmnopqrstuvwxyz0123456789".toList

/-- The letters that leave the spare bits behind a salt zero. -/
def closingLetters : List Char := ['.', 'O', 'e', 'u']

/-- The salt has 22 letters, and the last of them leaves the spare bits zero. -/
structure IsSalt (salt : List Char) : Prop where
  length : salt.length = saltLength
  letters : ∀ c ∈ salt, c ∈ alphabet
  closing : ∀ c ∈ salt.getLast?, c ∈ closingLetters

theorem alphabet_spec {c : Char} (hmem : c ∈ alphabet) :
    Plain c ∧ ∃ value, letterValue? c.toNat.toUInt8 = some value ∧
      (value % 16 = 0 ↔ c ∈ closingLetters) := by
  have hall : alphabet.all fun c => (c.toNat < 0x80 ∧ c ≠ '$') ∧
      ∃ value ∈ letterValue? c.toNat.toUInt8, value % 16 = 0 ↔ c ∈ closingLetters := by
    decide +kernel
  obtain ⟨hplain, value, hvalue, hclosing⟩ := of_decide_eq_true (List.all_eq_true.mp hall c hmem)
  exact ⟨hplain, value, hvalue, hclosing⟩

/-- Nothing but letters has a value. -/
theorem letterValue?_spec {byte : UInt8} {value : Nat} (hvalue : letterValue? byte = some value) :
    Char.ofNat byte.toNat ∈ alphabet ∧
      (value % 16 = 0 → Char.ofNat byte.toNat ∈ closingLetters) := by
  have hall : ∀ code < 0x100, ∀ value ∈ letterValue? code.toUInt8, Char.ofNat code ∈ alphabet ∧
      (value % 16 = 0 → Char.ofNat code ∈ closingLetters) := by
    decide +kernel
  refine hall byte.toNat byte.toNat_lt value ?_
  rw [Nat.toUInt8_eq, UInt8.ofNat_toNat]
  exact hvalue

theorem mapM_eq_some_iff {α β : Type} {f : α → Option β} {xs : List α} {ys : List β} :
    xs.mapM f = some ys ↔ xs.map f = ys.map some := by
  induction xs generalizing ys with
  | nil =>
      cases ys with
      | nil => simp
      | cons y more => simp
  | cons x rest ih =>
      simp only [List.mapM_cons, Option.bind_eq_bind, Option.bind_eq_some_iff, ih, Option.pure_def,
        Option.some.injEq, List.map_cons]
      constructor
      · rintro ⟨y, hy, more, hmore, rfl⟩
        rw [hy, hmore, List.map_cons]
      · intro hmap
        cases ys with
        | nil => cases hmap
        | cons y more =>
            rw [List.map_cons] at hmap
            obtain ⟨hy, hmore⟩ := List.cons.inj hmap
            exact ⟨y, hy, more, hmore, rfl⟩

theorem bytesOfValues_isSome_iff (groups : Nat) :
    ∀ {values : List Nat} {last : Nat}, values.length = 4 * groups + 1 →
      ((bytesOfValues (values ++ [last])).isSome = true ↔ last % 16 = 0) := by
  induction groups with
  | zero =>
      intro values last hlength
      obtain ⟨value, rfl⟩ := List.length_eq_one_iff.mp hlength
      by_cases hlast : last % 16 = 0
      · simp [bytesOfValues, hlast]
      · simp [bytesOfValues, hlast]
  | succ groups ih =>
      intro values last hlength
      match values, hlength with
      | a :: b :: c :: d :: rest, hlength =>
          have hrest : rest.length = 4 * groups + 1 := by
            simp only [List.length_cons] at hlength
            omega
          simp [bytesOfValues, ih hrest]

/-- A salt is read just if all of it has values and the last value has no spare bits. -/
theorem isSome_saltBytes?_iff {letters : List UInt8} :
    (saltBytes? letters).isSome = true ↔ letters.length = saltLength ∧
      ∃ values last, letters.map letterValue? = (values ++ [last]).map some ∧ last % 16 = 0 := by
  unfold saltBytes?
  by_cases hlength : letters.length = saltLength
  · rw [if_pos hlength]
    have hcount {values : List Nat} {last : Nat}
        (hmap : letters.map letterValue? = (values ++ [last]).map some) :
        values.length = 4 * 5 + 1 := by
      have hlengths := congrArg List.length hmap
      rw [List.length_map, List.length_map, hlength, List.length_append] at hlengths
      simpa [saltLength] using hlengths.symm
    constructor
    · intro hsome
      obtain ⟨bytes, hbytes⟩ := Option.isSome_iff_exists.mp hsome
      obtain ⟨all, hall, hread⟩ := Option.bind_eq_some_iff.mp hbytes
      have hmap := mapM_eq_some_iff.mp hall
      rcases List.eq_nil_or_concat all with rfl | ⟨values, last, rfl⟩
      · have hnil : letters = [] := List.map_eq_nil_iff.mp hmap
        rw [hnil] at hlength
        cases hlength
      · rw [List.concat_eq_append] at hmap hread
        refine ⟨hlength, values, last, hmap, (bytesOfValues_isSome_iff 5 (hcount hmap)).mp ?_⟩
        rw [hread, Option.isSome_some]
    · rintro ⟨-, values, last, hmap, hlast⟩
      rw [mapM_eq_some_iff.mpr hmap, Option.bind_some]
      exact (bytesOfValues_isSome_iff 5 (hcount hmap)).mpr hlast
  · simp [hlength]

namespace IsSalt

theorem isSome_saltBytes? {salt : List Char} (hsalt : IsSalt salt) :
    (saltBytes? (asciiBytes salt)).isSome = true := by
  rw [isSome_saltBytes?_iff]
  refine ⟨by rw [asciiBytes, List.length_map, hsalt.length], ?_⟩
  rcases List.eq_nil_or_concat salt with rfl | ⟨front, last, rfl⟩
  · cases hsalt.length
  · rw [List.concat_eq_append] at hsalt ⊢
    obtain ⟨-, value, hvalue, hclosing⟩ := alphabet_spec (hsalt.letters last (by simp))
    refine ⟨front.map fun c => (letterValue? c.toNat.toUInt8).getD 0, value, ?_,
      hclosing.mpr (hsalt.closing last (by simp))⟩
    rw [asciiBytes, List.map_append, List.map_append, List.map_append, List.map_singleton,
      List.map_singleton, List.map_singleton, hvalue, List.map_map, List.map_map]
    congr 1
    apply List.map_congr_left
    intro c hc
    obtain ⟨-, other, hother, -⟩ := alphabet_spec (hsalt.letters c (by simp [hc]))
    simp [hother]

/-- Whatever is read as a salt has the form of one. -/
theorem of_saltBytes? {letters : List UInt8} (hsome : (saltBytes? letters).isSome = true) :
    IsSalt (asciiChars letters) := by
  obtain ⟨hlength, values, last, hmap, hlast⟩ := isSome_saltBytes?_iff.mp hsome
  constructor
  case length => rw [asciiChars, List.length_map, hlength]
  case letters =>
    intro c hc
    obtain ⟨byte, hbyte, rfl⟩ := List.mem_map.mp hc
    have hmem : letterValue? byte ∈ letters.map letterValue? := List.mem_map_of_mem hbyte
    rw [hmap] at hmem
    obtain ⟨value, -, hvalue⟩ := List.mem_map.mp hmem
    exact (letterValue?_spec hvalue.symm).1
  case closing =>
    intro c hc
    rw [asciiChars, List.getLast?_map] at hc
    obtain ⟨byte, hbyte, rfl⟩ := Option.map_eq_some_iff.mp hc
    have hvalue := congrArg List.getLast? hmap
    rw [List.getLast?_map, hbyte, List.map_append, List.getLast?_append] at hvalue
    exact (letterValue?_spec (Option.some.inj hvalue)).2 hlast

end IsSalt

theorem isSalt_of_digits {digits : List Char} (hdigits : ∀ c ∈ digits, c.isDigit = true)
    (hlength : digits.length = 21) :
    IsSalt (digits ++ ['u']) := by
  have hletters : ∀ code < 58, 48 ≤ code → Char.ofNat code ∈ alphabet := by
    decide +kernel
  constructor
  case length => rw [List.length_append, hlength, List.length_singleton, saltLength]
  case letters =>
    intro c hc
    rcases List.mem_append.mp hc with hdigit | hlast
    · obtain ⟨hfrom, hto⟩ : 48 ≤ c.toNat ∧ c.toNat ≤ 57 := by
        simpa [Char.isDigit, UInt32.le_iff_toNat_le] using hdigits c hdigit
      rw [← Char.ofNat_toNat c]
      exact hletters c.toNat (by omega) hfrom
    · rw [List.mem_singleton.mp hlast]
      decide
  case closing =>
    intro c hc
    rw [List.getLast?_concat, Option.mem_some] at hc
    rw [← hc]
    decide

/-- A version, a cost and a salt that are what they should be make a setting. -/
theorem IsSalt.valid
    {salt : List Char} (hsalt : IsSalt salt) {version : List Char} (hversion : version ∈ versions)
    {cost : Nat} (hleast : minCost ≤ cost) (hgreatest : cost ≤ maxCost) :
    Setting.Valid ⟨version, cost, salt⟩ where
  version := hversion
  least := hleast
  greatest := hgreatest
  salt := fun c hc => (alphabet_spec (hsalt.letters c hc)).1
  saltBytes := hsalt.isSome_saltBytes?

end AccountSessions.Password.Bcrypt

namespace AccountSessions.Password

theorem numberedSalt_spec (number : Nat) :
    ∃ digits : List Char, (numberedSalt number).toList = digits ++ ['u'] ∧ digits.length = 21 ∧
      ∀ c ∈ digits, c.isDigit = true := by
  have hfew : (Nat.toDigits 10 (number % Nat.pow 10 21)).length ≤ 21 :=
    (Nat.length_toDigits_le_iff (by decide) (by decide)).mpr (Nat.mod_lt number (by decide))
  refine ⟨_, String.toList_ofList, ?_, ?_⟩
  · rw [List.length_append, List.length_replicate]
    omega
  · intro c hc
    rcases List.mem_append.mp hc with hzero | hdigit
    · rw [List.eq_of_mem_replicate hzero]
      rfl
    · exact Nat.isDigit_of_mem_toDigits (by decide) (by decide) hdigit

theorem isSalt_numbered (number : Nat) : Bcrypt.IsSalt (numberedSalt number).toList := by
  obtain ⟨digits, hsalt, hlength, hdigits⟩ := numberedSalt_spec number
  rw [hsalt]
  exact Bcrypt.isSalt_of_digits hdigits hlength

theorem exists_hash
    {rounds : Int} (hleast : (Bcrypt.minCost : Int) ≤ rounds) (hgreatest : rounds ≤ Bcrypt.maxCost)
    {password : String}
    (hshort : (Text.Utf8.encode password.toList).length ≤ Bcrypt.passwordLimit) (salt : String) :
    ∃ stored, hash rounds salt password = .ok stored := by
  unfold hash
  rw [if_neg (by omega)]
  dsimp only
  rw [if_neg (by omega)]
  exact ⟨_, rfl⟩

/-- The form of a hash that was made. -/
theorem hash_eq_ok
    {rounds : Int} {salt password stored : String} (hhash : hash rounds salt password = .ok stored) :
    (Bcrypt.minCost : Int) ≤ rounds ∧ rounds ≤ Bcrypt.maxCost ∧
      (Text.Utf8.encode password.toList).length ≤ Bcrypt.passwordLimit ∧
      stored.toList = Bcrypt.write ⟨Bcrypt.currentVersion, rounds.toNat, salt.toList⟩
        (Text.Utf8.encode password.toList) := by
  unfold hash at hhash
  split at hhash
  next => cases hhash
  next hrounds =>
    dsimp only at hhash
    split at hhash
    next => cases hhash
    next hshort =>
      obtain ⟨hleast, hgreatest⟩ := not_or.mp hrounds
      rw [← Except.ok.inj hhash, String.toList_ofList]
      exact ⟨Int.not_lt.mp hleast, Int.not_lt.mp hgreatest, Nat.not_lt.mp hshort, rfl⟩

/-- The setting of a hash that was made under a proper salt. -/
theorem valid_of_hash
    {rounds : Int} {salt password stored : String} (hsalt : Bcrypt.IsSalt salt.toList)
    (hhash : hash rounds salt password = .ok stored) :
    Bcrypt.Setting.Valid ⟨Bcrypt.currentVersion, rounds.toNat, salt.toList⟩ := by
  obtain ⟨hleast, hgreatest, -⟩ := hash_eq_ok hhash
  exact hsalt.valid (by decide) (Int.ofNat_le.mp (hleast.trans (Int.self_le_toNat rounds)))
    (Int.toNat_le.mpr hgreatest)

theorem isEmpty_of_eq_write
    {stored : String} {setting : Bcrypt.Setting} {password : List UInt8}
    (hstored : stored.toList = Bcrypt.write setting password) :
    stored.isEmpty = false := by
  rw [← Bool.not_eq_true, String.isEmpty_iff, ← String.toList_inj, hstored]
  nofun

/-- A password is accepted by every hash that was made of it under a proper salt. -/
theorem verify_of_salted_hash
    {rounds : Int} {salt password stored : String} (hsalt : Bcrypt.IsSalt salt.toList)
    (hhash : hash rounds salt password = .ok stored) :
    verify password stored = true := by
  obtain ⟨-, -, hshort, hstored⟩ := hash_eq_ok hhash
  have hvalid := valid_of_hash hsalt hhash
  have hmatches := hvalid.matches?_write hshort
  rw [← hvalid.encode_write, ← hstored] at hmatches
  rw [verify, judge, isEmpty_of_eq_write hstored, hmatches]
  rfl

/-- A password is accepted by every hash that was made of it under a numbered salt. -/
theorem verify_of_hash {rounds : Int} {number : Nat} {password stored : String}
    (hhash : hash rounds (numberedSalt number) password = .ok stored) :
    verify password stored = true :=
  verify_of_salted_hash (isSalt_numbered number) hhash

end AccountSessions.Password
