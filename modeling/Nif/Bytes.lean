/-!
**Byte strings and the text they hold.**

Three readings of bytes meet at the boundary: memory that ends at its first zero byte, Latin-1 (one
byte per character) and UTF-8.

* `latin1?_latin1`, `latin1_of_latin1?`: Latin-1 reading and writing undo each other.
* `utf8?_utf8Bytes`, `utf8Bytes_of_utf8?`: so do UTF-8 reading and writing.
* `terminated_of_not_mem`: bytes without a zero are read whole.
-/

namespace Nif

abbrev Bytes := List UInt8

namespace Bytes

/-- What a reader finds who stops at the first zero byte. -/
def terminated (bytes : Bytes) : Bytes := bytes.takeWhile (· != 0)

/-- One character per byte, with the byte as its code point. -/
def latin1 (bytes : Bytes) : String :=
  String.ofList (bytes.map fun byte => Char.ofNat byte.toNat)

/-- The text whose UTF-8 encoding the bytes are. -/
def utf8? (bytes : Bytes) : Option String := String.fromUTF8? ⟨bytes.toArray⟩

end Bytes

/-- The byte of a character up to U+00FF. -/
def latin1Byte? (c : Char) : Option UInt8 :=
  if c.toNat < 256 then some (UInt8.ofNat c.toNat) else none

/-- One byte per character, if every character is at most U+00FF. -/
def latin1? (text : String) : Option Bytes := text.toList.mapM latin1Byte?

def utf8Bytes (text : String) : Bytes := text.toByteArray.data.toList

theorem utf8Bytes_append (first second : String) :
    utf8Bytes (first ++ second) = utf8Bytes first ++ utf8Bytes second := by
  rw [utf8Bytes, String.toByteArray_append, ByteArray.data_append, Array.toList_append]
  rfl

namespace Bytes

theorem terminated_of_not_mem {bytes : Bytes} (noZero : 0 ∉ bytes) : bytes.terminated = bytes := by
  induction bytes with
  | nil => rfl
  | cons byte rest ih =>
    obtain ⟨nonzero, restNoZero⟩ := not_or.mp (fun zero => noZero (List.mem_cons.mpr zero))
    have kept : (byte != 0) = true := by simpa using Ne.symm nonzero
    rw [terminated, List.takeWhile_cons, if_pos kept]
    exact congrArg (byte :: ·) (ih restNoZero)

theorem utf8?_utf8Bytes (text : String) : utf8? (utf8Bytes text) = some text := by
  have restored : (⟨(utf8Bytes text).toArray⟩ : ByteArray) = text.toByteArray := by
    simp [utf8Bytes]
  rw [utf8?, restored, String.fromUTF8?, dif_pos text.isValidUTF8]
  rfl

theorem utf8Bytes_of_utf8? {bytes : Bytes} {text : String} (read : bytes.utf8? = some text) :
    utf8Bytes text = bytes := by
  rw [utf8?, String.fromUTF8?] at read
  split at read
  · obtain rfl := Option.some.inj read
    simp [utf8Bytes, String.fromUTF8]
  · simp at read

theorem latin1Byte?_ofNat (byte : UInt8) : latin1Byte? (Char.ofNat byte.toNat) = some byte := by
  have below : byte.toNat < 256 := byte.toNat_lt
  have valid : byte.toNat.isValidChar := Or.inl (by omega)
  have code : (Char.ofNat byte.toNat).toNat = byte.toNat := by
    rw [Char.ofNat, dif_pos valid]
    rfl
  simp [latin1Byte?, code, below]

theorem ofNat_of_latin1Byte? {c : Char} {byte : UInt8} (read : latin1Byte? c = some byte) :
    Char.ofNat byte.toNat = c := by
  unfold latin1Byte? at read
  split at read
  · obtain rfl := Option.some.inj read
    have code : (UInt8.ofNat c.toNat).toNat = c.toNat := by
      simp only [UInt8.toNat_ofNat']
      omega
    rw [code, Char.ofNat_toNat]
  · simp at read

theorem latin1?_latin1 (bytes : Bytes) : latin1? bytes.latin1 = some bytes := by
  rw [latin1?, latin1, String.toList_ofList]
  induction bytes with
  | nil => rfl
  | cons byte rest ih => simp [List.mapM_cons, latin1Byte?_ofNat, ih]

theorem latin1_of_latin1? {text : String} {bytes : Bytes} (read : latin1? text = some bytes) :
    bytes.latin1 = text := by
  have readList : ∀ (chars : List Char) (bytes : Bytes), chars.mapM latin1Byte? = some bytes →
      (bytes.map fun byte => Char.ofNat byte.toNat) = chars := by
    intro chars
    induction chars with
    | nil => intro bytes read; simp at read; simp [read]
    | cons c rest ih =>
      intro bytes read
      simp only [List.mapM_cons, Option.bind_eq_bind, Option.bind_eq_some_iff, Option.pure_def,
        Option.some.injEq] at read
      obtain ⟨byte, head, tail, tailRead, rfl⟩ := read
      simp [ofNat_of_latin1Byte? head, ih tail tailRead]
  rw [latin1, readList _ _ read, String.ofList_toList]

end Bytes

end Nif
