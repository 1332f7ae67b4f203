import Nif.Proofs.Makers
import Nif.Proofs.Reading

/-!
**A parameter accepts exactly the meanings of its own values.**

* `Param.Denotes`: the meanings of a value of a type; `Param.missed`: the fault for a meaning that
  is of no value of the type.
* `Param.read_eq_ok_iff`, `Param.read_eq_error_iff`: what is read from a meaning, and what is
  refused.
* `Param.decode_exact`: so an argument is read as a value exactly if it means this value, and is
  refused with the fault of the type in every other case.
-/

namespace Nif

/-- The code points of a text, one integer for each character. -/
def Value.codePoints (text : String) : List Value :=
  text.toList.map fun c => .int (Int64.ofNat c.toNat)

namespace Param

/-- The meanings of a value of the type. A text has two: the binary of its UTF-8 encoding and, if no
character is beyond U+00FF, the list of its code points. -/
def Denotes : (param : Param) → Value → param.Carrier → Prop
  | i32, value, number => value = .int number.toInt64
  | u32, value, number => value = .int (Int64.ofNat number.toNat)
  | i64, value, number => value = .int number
  | f64, value, number => value = .float number
  | bool, value, truth => value = .atom (if truth then "true" else "false")
  | text, value, content =>
    value = .binary (utf8Bytes content) ∨
      (value = .list (Value.codePoints content) ∧ ∀ c ∈ content.toList, c.toNat ≤ 0xFF)
  | bytes, value, content => value = .binary content
  | atom, value, name => value = .atom name

/-- The fault for a meaning that is of no value of the type. -/
def missed : Param → Value → Fault
  | i32, _ => .shapeMismatch "integer fitting in int"
  | u32, .int _ => .shapeMismatch "non-negative integer fitting in u32"
  | u32, _ => .shapeMismatch "integer fitting in long"
  | i64, _ => .shapeMismatch "integer fitting in long"
  | f64, _ => .shapeMismatch "float"
  | bool, .atom _ => .shapeMismatch "boolean"
  | bool, _ => .shapeMismatch "atom"
  | text, .binary _ => .invalidUtf8
  | text, _ => .shapeMismatch "binary or charlist"
  | bytes, _ => .shapeMismatch "binary"
  | atom, _ => .shapeMismatch "atom"

end Param

/-! ### Values of one kind -/

section Kinds

variable {value : Value}

theorem expect_eq_ok_iff {α : Type} {found : Option α} {fault : Fault} {result : α} :
    expect found fault = .ok result ↔ found = some result := by
  cases found <;> simp [expect]

theorem eq_of_expect {α : Type} {found : Option α} {fault other : Fault}
    (refused : expect found fault = .error other) : other = fault := by
  cases found with
  | none => exact (Except.error.inj refused).symm
  | some result => cases refused

theorem Value.int?_eq_some_iff {number : Int64} :
    value.int? = some number ↔ value = .int number := by
  cases value <;> simp [int?]

theorem Value.float?_eq_some_iff {number : Float} :
    value.float? = some number ↔ value = .float number := by
  cases value <;> simp [float?]

theorem Value.atom?_eq_some_iff {name : String} : value.atom? = some name ↔ value = .atom name := by
  cases value <;> simp [atom?]

theorem Value.binary?_eq_some_iff {bytes : Bytes} :
    value.binary? = some bytes ↔ value = .binary bytes := by
  cases value <;> simp [binary?]

theorem Value.list?_eq_some_iff {elements : List Value} :
    value.list? = some elements ↔ value = .list elements := by
  cases value <;> simp [list?]

end Kinds

/-! ### Integers of fewer bits -/

/-- An integer that fits into 32 bits is the widening of what it is narrowed to. -/
theorem Request.narrow?_eq_some_iff {wide : Int64} {number : Int32} :
    narrow? wide = some number ↔ wide = number.toInt64 := by
  have lower := number.le_toInt
  have upper := number.toInt_lt
  have least : Int32.minValue.toInt64.toInt = -0x80000000 := by decide +kernel
  have greatest : Int32.maxValue.toInt64.toInt = 0x7FFFFFFF := by decide +kernel
  rw [narrow?, Option.ite_none_right_eq_some, Option.some.injEq, Int64.le_iff_toInt_le,
    Int64.le_iff_toInt_le, least, greatest, ← Int32.toInt_inj, ← Int64.toInt_inj,
    Int64.toInt_toInt32, Int32.toInt_toInt64]
  constructor
  · rintro ⟨⟨low, high⟩, same⟩
    rwa [Int.bmod_eq_of_le (by omega) (by omega)] at same
  · intro same
    rw [same, Int.bmod_eq_of_le (by omega) (by omega)]
    omega

/-- A natural number below `2 ^ 63`, as an integer of 64 bits. -/
theorem eq_ofNat_iff {wide : Int64} {number : Nat} (small : number < 0x8000000000000000) :
    wide = Int64.ofNat number ↔ wide.toInt = number := by
  rw [← Int64.toInt_inj, Int64.toInt_ofNat_of_lt small]

/-- The integers from zero up to a bound are the natural numbers below it. -/
theorem natural_iff {wide : Int64} {bound number : Nat} (small : bound < 0x8000000000000000)
    (below : number < bound) :
    ((0 ≤ wide ∧ wide < Int64.ofNat bound) ∧ wide.toUInt64.toNat % bound = number) ↔
      wide = Int64.ofNat number := by
  have bits : 0 ≤ wide → wide.toUInt64.toNat = wide.toInt.toNat := Int64.toNat_toUInt64_of_le
  have positive : 0 ≤ wide ↔ 0 ≤ wide.toInt := Int64.le_iff_toInt_le
  rw [eq_ofNat_iff (below.trans small), Int64.lt_iff_toInt_lt, Int64.toInt_ofNat_of_lt small]
  constructor
  · rintro ⟨⟨lower, upper⟩, same⟩
    rw [bits lower, Nat.mod_eq_of_lt (by omega)] at same
    have := positive.mp lower
    omega
  · intro same
    have lower := positive.mpr (by omega)
    rw [bits lower, Nat.mod_eq_of_lt (by omega)]
    exact ⟨⟨lower, by omega⟩, by omega⟩

/-- The unsigned integers of 32 bits among the integers. -/
theorem unsigned_iff {wide : Int64} {number : UInt32} :
    ((0 ≤ wide ∧ wide < 0x100000000) ∧ wide.toUInt64.toUInt32 = number) ↔
      wide = Int64.ofNat number.toNat := by
  rw [← UInt32.toNat_inj, UInt64.toNat_toUInt32]
  exact natural_iff (by decide) number.toNat_lt

/-- The bytes among the integers. -/
theorem Request.byte?_eq_some_iff {wide : Int64} {byte : UInt8} :
    byte? wide = some byte ↔ wide = Int64.ofNat byte.toNat := by
  rw [byte?, Option.ite_none_right_eq_some, Option.some.injEq, ← UInt8.toNat_inj,
    UInt64.toNat_toUInt8]
  exact natural_iff (by decide) byte.toNat_lt

/-! ### Lists of code points -/

/-- The value is the list of these bytes. -/
theorem Value.string?_eq_some_iff {value : Value} {bytes : Bytes} :
    value.string? = some bytes ↔
      value = .list (bytes.map fun byte => .int (Int64.ofNat byte.toNat)) := by
  have element : ∀ (part : Value) (byte : UInt8), (part.int?.bind Request.byte?) = some byte ↔
      part = .int (Int64.ofNat byte.toNat) := by
    intro part byte
    simp [Option.bind_eq_some_iff, int?_eq_some_iff, Request.byte?_eq_some_iff]
  have elements : ∀ parts : List Value,
      (parts.mapM fun part => part.int?.bind Request.byte?) = some bytes ↔
        parts = bytes.map fun byte => .int (Int64.ofNat byte.toNat) := by
    intro parts
    simp only [mapM_eq_some_iff, element]
    rw [← List.forall₂_map_right_iff, List.forall₂_eq_eq_eq]
  rw [string?, Option.bind_eq_some_iff]
  simp only [list?_eq_some_iff, elements]
  constructor
  · rintro ⟨parts, rfl, rfl⟩
    rfl
  · rintro rfl
    exact ⟨_, rfl, rfl⟩

/-- The code points of bytes are the bytes. -/
theorem Value.codePoints_latin1 (bytes : Bytes) :
    codePoints bytes.latin1 = bytes.map fun byte => .int (Int64.ofNat byte.toNat) := by
  have pairs := latin1?_eq_some_iff.mp (Bytes.latin1?_latin1 bytes)
  rw [codePoints]
  generalize bytes.latin1.toList = chars at pairs
  induction pairs with
  | nil => rfl
  | cons same _ ih => rw [List.map_cons, List.map_cons, ih, same]

/-- **The value is the list of the code points of the text**, none of them beyond U+00FF. -/
theorem Value.charlist_iff {value : Value} {text : String} :
    value.string?.map Bytes.latin1 = some text ↔
      value = .list (codePoints text) ∧ ∀ c ∈ text.toList, c.toNat ≤ 0xFF := by
  simp only [Option.map_eq_some_iff, string?_eq_some_iff]
  constructor
  · rintro ⟨bytes, rfl, rfl⟩
    rw [codePoints_latin1]
    exact ⟨rfl, latin1?_isSome_iff.mp (by rw [Bytes.latin1?_latin1]; rfl)⟩
  · rintro ⟨rfl, low⟩
    obtain ⟨bytes, read⟩ := Option.isSome_iff_exists.mp (latin1?_isSome_iff.mpr low)
    obtain rfl := Bytes.latin1_of_latin1? read
    exact ⟨bytes, by rw [codePoints_latin1], rfl⟩

/-- The bytes are the UTF-8 encoding of the text. -/
theorem Bytes.utf8?_eq_some_iff {bytes : Bytes} {text : String} :
    bytes.utf8? = some text ↔ bytes = utf8Bytes text :=
  ⟨fun read => (utf8Bytes_of_utf8? read).symm, fun same => same ▸ utf8?_utf8Bytes text⟩

/-! ### Parameters -/

namespace Param

variable {value : Value}

theorem readUnsigned_eq_ok_iff {number : UInt32} :
    u32.read value = .ok number ↔ value = .int (Int64.ofNat number.toNat) := by
  rw [read]
  cases found : value.int? with
  | none =>
    constructor
    · intro impossible
      cases impossible
    · intro same
      rw [same] at found
      cases found
  | some wide =>
    obtain rfl := Value.int?_eq_some_iff.mp found
    rw [Value.int.injEq, ← unsigned_iff]
    show (if 0 ≤ wide ∧ wide < 0x100000000 then _ else _) = _ ↔ _
    by_cases inside : 0 ≤ wide ∧ wide < 0x100000000 <;> simp [inside]

theorem readBool_eq_ok_iff {truth : Bool} :
    bool.read value = .ok truth ↔ value = .atom (if truth then "true" else "false") := by
  rw [read]
  cases found : value.atom? with
  | none =>
    constructor
    · intro impossible
      cases impossible
    · intro same
      rw [same] at found
      cases found
  | some name =>
    obtain rfl := Value.atom?_eq_some_iff.mp found
    simp only [expect, bind, Except.bind]
    split <;> cases truth <;> simp_all

theorem readText_eq_ok_iff {content : String} :
    text.read value = .ok content ↔ text.Denotes value content := by
  rw [read, Denotes]
  cases found : value.binary? with
  | none =>
    have other : value ≠ .binary (utf8Bytes content) := fun same => by
      rw [same] at found
      cases found
    show expect _ _ = _ ↔ _
    rw [expect_eq_ok_iff, Value.charlist_iff, or_iff_right other]
  | some held =>
    obtain rfl := Value.binary?_eq_some_iff.mp found
    show expect held.utf8? _ = _ ↔ _
    rw [expect_eq_ok_iff, Bytes.utf8?_eq_some_iff]
    simp

/-- **What a parameter reads from a meaning is what the meaning denotes.** -/
theorem read_eq_ok_iff {param : Param} {carried : param.Carrier} :
    param.read value = .ok carried ↔ param.Denotes value carried := by
  cases param with
  | i32 =>
    simp [read, Denotes, expect_eq_ok_iff, Option.bind_eq_some_iff, Value.int?_eq_some_iff,
      Request.narrow?_eq_some_iff]
  | u32 => exact readUnsigned_eq_ok_iff
  | i64 => rw [read, expect_eq_ok_iff, Value.int?_eq_some_iff, Denotes]
  | f64 => rw [read, expect_eq_ok_iff, Value.float?_eq_some_iff, Denotes]
  | bool => exact readBool_eq_ok_iff
  | text => exact readText_eq_ok_iff
  | bytes => rw [read, expect_eq_ok_iff, Value.binary?_eq_some_iff, Denotes]
  | atom => rw [read, expect_eq_ok_iff, Value.atom?_eq_some_iff, Denotes]

/-- **A meaning is refused with the fault of the type.** -/
theorem eq_missed_of_read {param : Param} {fault : Fault}
    (refused : param.read value = .error fault) :
    fault = param.missed value := by
  cases param with
  | i32 | i64 | f64 | bytes | atom => exact eq_of_expect refused
  | u32 =>
    cases value with
    | int wide =>
      change (if 0 ≤ wide ∧ wide < 0x100000000 then _ else _) = _ at refused
      split at refused
      · cases refused
      · exact (Except.error.inj refused).symm
    | _ => exact (Except.error.inj refused).symm
  | bool =>
    cases value with
    | atom name =>
      simp only [read, Value.atom?, expect, bind, Except.bind] at refused
      split at refused
      · cases refused
      · cases refused
      · exact (Except.error.inj refused).symm
    | _ => exact (Except.error.inj refused).symm
  | text =>
    rw [read] at refused
    cases value <;> exact eq_of_expect refused

theorem read_eq_error_iff {param : Param} {fault : Fault} :
    param.read value = .error fault ↔
      (∀ carried, ¬ param.Denotes value carried) ∧ fault = param.missed value := by
  constructor
  · intro refused
    refine ⟨fun carried denotes => ?_, eq_missed_of_read refused⟩
    rw [read_eq_ok_iff.mpr denotes] at refused
    cases refused
  · rintro ⟨none, rfl⟩
    cases result : param.read value with
    | ok carried => exact absurd (read_eq_ok_iff.mp result) (none carried)
    | error fault => rw [eq_missed_of_read result]

end Param

end Nif
