import Nif.Proofs.Acceptance
import Nif.Proofs.Encoding
import Nif.Proofs.Permanence

/-!
**Reading undoes encoding, and encoding undoes reading.**

* `Param.data`: the value of a parameter as a value to be encoded; `Param.denotes_iff`: its meanings
  are the image of that value and, for a text, the list of its code points.
* `Data.encode_of_spare`: in a frame with room for one object and one name, a value without parts is
  encoded.
* `Environment.decode?_of_denotes`: a word that shows a value of some parameter has this value as
  its meaning.
* `Frame.makeCharlist_makes`: the host's builder of charlists makes the list of the code points.
* `Session.codec_round_trip`: the two directions, and the two terms of a text.
-/

namespace Nif

/-! ### Values of parameters as values to be encoded -/

namespace Param

/-- The value of a parameter as a value that a function may return. -/
def data : (param : Param) → param.Carrier → Data
  | i32, number => .i32 number
  | u32, number => .u32 number
  | i64, number => .i64 number
  | f64, number => .f64 number
  | bool, truth => .bool truth
  | text, content => .text content
  | bytes, content => .bytes content
  | atom, name => .atom name

theorem parts_data (param : Param) (carried : param.Carrier) :
    (param.data carried).parts = [param.data carried] := by
  cases param <;> rfl

/-- **The meanings of a value**: its image and, for a text of Latin-1 characters, its code points.
-/
theorem denotes_iff {param : Param} {value : Value} {carried : param.Carrier} :
    param.Denotes value carried ↔
      value = (param.data carried).image ∨ ∃ content, param.data carried = .text content ∧
        value = .list (Value.codePoints content) ∧ ∀ c ∈ content.toList, c.toNat ≤ 0xFF := by
  cases param <;> simp [Denotes, data, Data.image]

/-- What cannot be encoded although it can be read: a float that is not finite, a name with a zero
character. -/
def Writable : (param : Param) → param.Carrier → Prop
  | f64, number => number.isFinite
  | atom, name => '\x00' ∉ name.toList
  | _, _ => True

end Param

namespace Value

theorem codePoints_whole (text : String) : (Value.list (codePoints text)).Whole := by
  refine .list fun part member => ?_
  obtain ⟨c, -, rfl⟩ := List.mem_map.mp member
  exact .int _

theorem whole_of_denotes {param : Param} {value : Value} {carried : param.Carrier}
    (denotes : param.Denotes value carried) (clean : (param.data carried).fault? = none) :
    value.Whole := by
  rcases Param.denotes_iff.mp denotes with rfl | ⟨content, -, rfl, -⟩
  · refine Data.image_whole ?_
    rw [Param.parts_data]
    exact Parts.firstFault_singleton_of_none clean
  · exact codePoints_whole content

end Value

/-! ### Encoding a value without parts -/

namespace Data

variable {part : Data} {frame : Frame}

/-- A single part takes no more than one object and one name. -/
theorem room_of_spare (spare : frame.Spare) (part : Data) : frame.Room part.cells part.names := by
  have few : part.cells ≤ 1 := by
    unfold cells
    split <;> decide
  refine ⟨(Nat.add_le_add_left few _).trans spare.slot, ?_⟩
  unfold names
  cases part.name? with
  | none => exact spare.cell.atoms
  | some name => exact spare.admits name

/-- **With room for one object and one name, a value without parts is encoded.** -/
theorem encode_of_spare (leaf : part.parts = [part]) (clean : part.fault? = none)
    (spare : frame.Spare) :
    ∃ word after, part.encode.outcome frame = (.ok word, after) ∧ frame.GrowsTo after ∧
      after.Term part.image word := by
  have room : frame.Room part.parts.cells part.parts.names := by
    rw [leaf, Parts.cells_singleton clean, Parts.names_singleton clean]
    exact room_of_spare spare part
  have first : part.parts.firstFault = none := by
    rw [leaf]
    exact Parts.firstFault_singleton_of_none clean
  rcases outcome : part.encode.outcome frame with ⟨result, after⟩
  obtain ⟨built, ⟨word, rfl, -, term⟩ | ⟨fault, -, faulty⟩⟩ :=
    (encode_follows part room).of_outcome outcome
  · exact ⟨word, after, rfl, built.grows, term⟩
  · cases first.symm.trans faulty

end Data

/-! ### Charlists -/

/-- A code point as an integer. -/
theorem toInt_codePoint (c : Char) :
    (Int64.ofNat c.toNat).toInt = c.toNat ∧ c.toNat < 0x110000 := by
  have small : c.toNat < 0x110000 := by
    rcases c.valid with low | ⟨-, high⟩
    · exact low.trans (by decide)
    · exact high
  exact ⟨Int64.toInt_ofNat_of_lt (by omega), small⟩

/-- **The code points tell the text.** -/
theorem Value.codePoints_injective : Function.Injective codePoints := by
  have single : Function.Injective fun c : Char => Value.int (Int64.ofNat c.toNat) := by
    intro c d same
    obtain ⟨first, -⟩ := toInt_codePoint c
    obtain ⟨second, -⟩ := toInt_codePoint d
    rw [Value.int.injEq, ← Int64.toInt_inj, first, second] at same
    exact Char.toNat_inj.mp (Int.ofNat_inj.mp same)
  intro text other same
  exact String.toList_injective (single.list_map same)

/-- A code point takes no object. -/
theorem Frame.integerCells_codePoint (c : Char) : integerCells (Int64.ofNat c.toNat) = 0 := by
  obtain ⟨same, small⟩ := toInt_codePoint c
  rw [integerCells, if_pos]
  omega

namespace Frame

variable {frame : Frame}

/-- A small integer is made without touching the frame. -/
theorem makeInt_of_small (frame : Frame) {value : Int64} (small : integerCells value = 0) :
    ∃ word, frame.makeInt value = (word, frame) ∧ frame.decode? word = some (.int value) := by
  unfold makeInt
  cases found : Word.ofSmall? value with
  | some word =>
    refine ⟨word, rfl, ?_⟩
    rw [← Word.payload_of_ofSmall? found]
    exact Environment.decodeWithin_of_isSmall (Word.isSmall_of_ofSmall? found) _
  | none =>
    have large := Word.ofSmall?_eq_none_iff.mp found
    unfold integerCells at small
    split at small
    · omega
    · cases small

theorem makeInts_of_small (frame : Frame) {values : List Int64}
    (small : ∀ value ∈ values, integerCells value = 0) :
    ∃ words, frame.makeInts values = (words, frame) ∧ frame.Means words (values.map .int) := by
  induction values with
  | nil => exact ⟨[], rfl, .nil⟩
  | cons value rest ih =>
    obtain ⟨first, others⟩ := List.forall_mem_cons.mp small
    obtain ⟨word, made, means⟩ := frame.makeInt_of_small first
    obtain ⟨words, madeToo, meanToo⟩ := ih others
    refine ⟨word :: words, ?_, .cons means meanToo⟩
    simp only [makeInts, made, madeToo]

/-- **A charlist is the list of the code points of its text.** -/
theorem makeCharlist_makes {text : String} (room : frame.Room text.length ∅) :
    frame.Makes (frame.makeCharlist text) (.list (Value.codePoints text)) text.length ∅ := by
  have small : ∀ value ∈ text.toList.map fun c => Int64.ofNat c.toNat, integerCells value = 0 := by
    intro value member
    obtain ⟨c, -, rfl⟩ := List.mem_map.mp member
    exact integerCells_codePoint c
  obtain ⟨words, made, means⟩ := frame.makeInts_of_small small
  rw [List.map_map] at means
  have length : words.length = text.length := by
    rw [means.length_eq, List.length_map, String.length_toList]
  rw [← length] at room
  have whole : ∀ part ∈ Value.codePoints text, part.Whole := by
    intro part member
    obtain ⟨c, -, rfl⟩ := List.mem_map.mp member
    exact .int _
  have makes := makeList_makes room means whole
  rw [length] at makes
  unfold makeCharlist
  rw [made]
  exact makes

end Frame

/-! ### What a word that can be read means -/

namespace Environment

variable {env : Environment} {atoms : AtomTable} {word : Word}

theorem decodeWithin_of_int? {number : Int64} (found : env.int? word = some number) (depth : Nat) :
    env.decodeWithin atoms (depth + 1) word = some (.int number) := by
  simp [decodeWithin, found]

theorem decodeWithin_of_float? {number : Float} (found : env.float? word = some number)
    (depth : Nat) :
    env.decodeWithin atoms (depth + 1) word = some (.float number) := by
  unfold float? at found
  split at found
  · rename_i stored
    cases found
    exact decodeWithin_of_cell? stored depth
  · cases found

theorem decodeWithin_of_binary? {bytes : Bytes} (found : env.binary? word = some bytes)
    (depth : Nat) :
    env.decodeWithin atoms (depth + 1) word = some (.binary bytes) := by
  unfold binary? at found
  split at found
  · rename_i stored
    cases found
    exact decodeWithin_of_cell? stored depth
  · cases found

/-- Behind a word that starts a list there is a list cell, or it is the empty list. -/
theorem decode?_of_list? {elements : List Word} (found : env.list? word = some elements)
    {values : List Value}
    (each : List.Forall₂
      (fun word value => ∀ depth, env.decodeWithin atoms (depth + 1) word = some value)
      elements values) :
    env.decode? atoms word = some (.list values) := by
  have ends := list?_eq_some_iff.mp found
  by_cases empty : word = Word.nil
  · subst empty
    cases (spineWithin_nil _).symm.trans ends
    cases each
    exact decodeWithin_nil _
  · by_cases cons : ∃ head tail, env.cell? word = some (.cons head tail)
    · obtain ⟨head, tail, stored⟩ := cons
      obtain ⟨slot, -, there⟩ := cell?_eq_some_iff.mp stored
      obtain ⟨size, filled⟩ : ∃ size, env.heap.size = size + 1 :=
        Nat.exists_eq_succ_of_ne_zero (Nat.ne_zero_of_lt (Array.getElem?_eq_some_iff.mp there).1)
      rw [decode?, decodeWithin_list stored ends, filled]
      refine Option.map_eq_some_iff.mpr ⟨values, mapM_eq_some_iff.mpr ?_, rfl⟩
      exact each.imp fun word value means => means size
    · have broken :=
        spineWithin_other empty (fun head tail stored => cons ⟨head, tail, stored⟩) env.heap.size
      cases broken.symm.trans ends

/-- **A word that shows a value of some parameter has this value as its meaning.** -/
theorem decode?_of_denotes {param : Param} {value : Value} {carried : param.Carrier}
    (shows : env.Shows atoms word value) (denotes : param.Denotes value carried) :
    env.decode? atoms word = some value := by
  cases value with
  | int number => exact decodeWithin_of_int? shows.int _
  | float number => exact decodeWithin_of_float? shows.float _
  | atom name =>
    obtain ⟨bytes, named, rfl⟩ := Option.map_eq_some_iff.mp shows.atom
    exact decodeWithin_of_atom? named _
  | binary bytes => exact decodeWithin_of_binary? shows.binary _
  | list elements =>
    obtain ⟨content, -, same, low⟩ : ∃ content, param.data carried = .text content ∧
        Value.list elements = .list (Value.codePoints content) ∧
          ∀ c ∈ content.toList, c.toNat ≤ 0xFF := by
      refine (Param.denotes_iff.mp denotes).resolve_left fun same => ?_
      cases param <;> cases same
    obtain ⟨bytes, text, -⟩ := Option.map_eq_some_iff.mp (Value.charlist_iff.mpr ⟨same, low⟩)
    have found := shows.string.trans text
    obtain ⟨words, inList, integers⟩ := Option.bind_eq_some_iff.mp found
    rw [Value.string?_eq_some_iff.mp text]
    refine decode?_of_list? inList ?_
    rw [List.forall₂_map_right_iff]
    refine (mapM_eq_some_iff.mp integers).imp fun element byte read depth => ?_
    obtain ⟨number, whole, narrow⟩ := Option.bind_eq_some_iff.mp read
    rw [Request.byte?_eq_some_iff.mp narrow] at whole
    exact decodeWithin_of_int? whole depth
  | tuple elements =>
    rcases Param.denotes_iff.mp denotes with same | ⟨content, -, same, -⟩
    · cases param <;> cases same
    · cases same
  | invalid other =>
    rcases Param.denotes_iff.mp denotes with same | ⟨content, -, same, -⟩
    · cases param <;> cases same
    · cases same

end Environment

/-! ### What was read can be encoded -/

/-- No character takes more than four bytes. -/
theorem utf8Bytes_length_le (text : String) : (utf8Bytes text).length ≤ 4 * text.length := by
  have size : ∀ chars : List Char, chars.utf8Encode.size ≤ 4 * chars.length := by
    intro chars
    induction chars with
    | nil => simp
    | cons c rest ih =>
      have head := c.utf8Size_le_four
      rw [List.utf8Encode_cons, ByteArray.size_append, List.utf8Encode_singleton, List.length_cons]
      simp only [List.size_toByteArray, String.length_utf8EncodeChar]
      omega
  have whole := size text.toList
  rwa [String.utf8Encode_toList, String.length_toList] at whole

/-- A text whose code points are a list on the heap takes at most four bytes for each slot. -/
theorem utf8Bytes_length_le_of_shows {frame : Frame} {word : Word} {text : String}
    (shows : frame.Shows word (.list (Value.codePoints text))) :
    (utf8Bytes text).length ≤ 4 * Interface.slotLimit := by
  obtain ⟨words, found, length⟩ := Option.map_eq_some_iff.mp shows.length
  have few : words.length ≤ Interface.slotLimit :=
    (Environment.length_le_of_list? found).trans frame.env.size_le
  rw [length, Value.codePoints, List.length_map, String.length_toList] at few
  exact (utf8Bytes_length_le text).trans (Nat.mul_le_mul_left 4 few)

namespace Param

variable {frame : Frame} {word : Word} {value : Value}

/-- The name of an atom in the table has no character beyond U+00FF, and not too many. -/
theorem isAtomName_of_shows {name : String} (shows : frame.Shows word (.atom name))
    (noZero : '\x00' ∉ name.toList) : IsAtomName name := by
  obtain ⟨bytes, named, rfl⟩ := Option.map_eq_some_iff.mp shows.atom
  obtain ⟨index, -, found⟩ := Option.bind_eq_some_iff.mp named
  have read := Bytes.latin1?_latin1 bytes
  refine ⟨latin1?_isSome_iff.mp (by rw [read]; rfl), noZero, ?_⟩
  rw [← (latin1?_facts read).1]
  exact frame.host.atoms.short bytes (List.mem_of_getElem? found)

/-- **What was read can be encoded**, if it is writable and no binary is beyond all memory. -/
theorem fault?_of_denotes {param : Param} {carried : param.Carrier} (shows : frame.Shows word value)
    (denotes : param.Denotes value carried) (writable : param.Writable carried)
    (memory : ∀ bytes, frame.env.binary? word = some bytes →
      bytes.length < Interface.allocationLimit) :
    (param.data carried).fault? = none := by
  cases param with
  | i32 | u32 | i64 | bool => rfl
  | f64 => exact if_pos writable
  | atom =>
    obtain rfl : value = .atom carried := denotes
    exact if_pos (isAtomName_of_shows shows writable)
  | bytes =>
    obtain rfl : value = .binary carried := denotes
    exact if_pos (memory carried shows.binary)
  | text =>
    refine if_pos ?_
    rcases denotes with rfl | ⟨rfl, -⟩
    · exact memory _ shows.binary
    · exact (utf8Bytes_length_le_of_shows shows).trans_lt (by decide)

end Param

/-- **A list of code points is read as its text**, or refused if it is not Latin-1. -/
theorem Param.readText_codePoints (content : String) :
    ((∀ c ∈ content.toList, c.toNat ≤ 0xFF) →
      text.read (.list (Value.codePoints content)) = .ok content) ∧
      ((¬ ∀ c ∈ content.toList, c.toNat ≤ 0xFF) →
        text.read (.list (Value.codePoints content)) =
          .error (.shapeMismatch "binary or charlist")) := by
  refine ⟨fun low => readText_eq_ok_iff.mpr (Or.inr ⟨rfl, low⟩), fun high => ?_⟩
  refine read_eq_error_iff.mpr ⟨fun other denotes => high ?_, rfl⟩
  rcases denotes with binary | ⟨same, low⟩
  · cases binary
  · rwa [Value.codePoints_injective (Value.list.inj same)]

/-! ### Both directions -/

namespace Session

/-- **Reading undoes encoding, and encoding undoes reading**, in any environment with room for an
object and a name. A value that has a term is read back from it, at once and after any further run.
So is a text from the charlist that the host makes of it, if it is a text of Latin-1 characters; any
other charlist is refused. Conversely, whatever value was read from a word, it is encoded, and the
new term means what the word means; only a text that was read from a charlist comes back as the
binary of its UTF-8 encoding. -/
theorem codec_round_trip {session : Session} {env : Nat} {frame : Frame}
    (opened : session.frame? env = some frame) (spare : frame.Spare) :
    (∀ (param : Param) (carried : param.Carrier), (param.data carried).fault? = none →
      ∃ word encoded, session.inEnvironment env (param.data carried).encode.outcome =
          some (.ok word, encoded) ∧
        ∀ operations, ∃ later, (encoded.after operations).frame? env = some later ∧
          (param.decode word).outcome later = (.ok carried, later)) ∧
    (∀ text : String, frame.Room text.length ∅ →
      ∃ word built, session.inEnvironment env (Frame.makeCharlist · text) = some (word, built) ∧
        ∀ operations, ∃ later, (built.after operations).frame? env = some later ∧
          ((∀ c ∈ text.toList, c.toNat ≤ 0xFF) →
            (Param.text.decode word).outcome later = (.ok text, later)) ∧
          ((¬ ∀ c ∈ text.toList, c.toNat ≤ 0xFF) →
            (Param.text.decode word).outcome later =
              (.error (.shapeMismatch "binary or charlist"), later))) ∧
    ∀ (param : Param) (word : Word) (carried : param.Carrier),
      ((param.decode word).outcome frame).1 = .ok carried → param.Writable carried →
      (∀ bytes, frame.env.binary? word = some bytes → bytes.length < Interface.allocationLimit) →
      ∃ value again after, frame.decode? word = some value ∧
        (param.data carried).encode.outcome frame = (.ok again, after) ∧
        after.decode? word = some value ∧ after.decode? again = some (param.data carried).image ∧
        (value = (param.data carried).image ∨
          ∃ content, param.data carried = .text content ∧
            value = .list (Value.codePoints content)) := by
  refine ⟨fun param carried clean => ?_, fun text room => ?_,
    fun param word carried read writable memory => ?_⟩
  · obtain ⟨word, after, outcome, -, term⟩ :=
      Data.encode_of_spare (param.parts_data carried) clean spare
    have denotes : param.Denotes (param.data carried).image carried :=
      Param.denotes_iff.mpr (Or.inl rfl)
    obtain ⟨encoded, done, stays⟩ := inEnvironment_stays opened (param.data carried).encode.outcome
    rw [outcome] at done stays
    refine ⟨word, encoded, done, fun operations => ?_⟩
    obtain ⟨later, there, grown⟩ := stays operations
    have means := Frame.decode?_grows grown term.meaning (Value.whole_of_denotes denotes clean)
    refine ⟨later, there, ?_⟩
    rw [param.outcome_decode means, Param.read_eq_ok_iff.mpr denotes]
  · have made := Frame.makeCharlist_makes room
    obtain ⟨built, done, stays⟩ := inEnvironment_stays opened (Frame.makeCharlist · text)
    refine ⟨_, built, done, fun operations => ?_⟩
    obtain ⟨later, there, grown⟩ := stays operations
    have means := Frame.decode?_grows grown made.meaning (Value.codePoints_whole text)
    obtain ⟨accepts, refuses⟩ := Param.readText_codePoints text
    have read := Param.text.outcome_decode means
    exact ⟨later, there, fun low => by rw [read, accepts low],
      fun high => by rw [read, refuses high]⟩
  · obtain ⟨value, shows⟩ := Environment.exists_shows frame.env frame.host.atoms word
    rw [param.outcome_decode_of_shows shows] at read
    have denotes := Param.read_eq_ok_iff.mp read
    have means : frame.decode? word = some value := Environment.decode?_of_denotes shows denotes
    have clean := Param.fault?_of_denotes shows denotes writable memory
    obtain ⟨again, after, outcome, grown, term⟩ :=
      Data.encode_of_spare (param.parts_data carried) clean spare
    have stays := Frame.decode?_grows grown means (Value.whole_of_denotes denotes clean)
    refine ⟨value, again, after, means, outcome, stays, term.meaning, ?_⟩
    rcases Param.denotes_iff.mp denotes with same | ⟨content, isText, same, -⟩
    · exact Or.inl same
    · exact Or.inr ⟨content, isText, same⟩

/-- In a fresh session: the largest integer is read back after an exception was raised and another
environment opened, the charlist of a text beyond Latin-1 is refused, and a small integer that was
read as an unsigned one is encoded again as the same integer. -/
theorem codec_round_trip_largest :
    ∃ (session : Session) (frame : Frame), session.frame? 0 = some frame ∧ frame.Spare ∧
      (∃ word encoded later, session.inEnvironment 0 (Data.i64 Int64.maxValue).encode.outcome =
          some (.ok word, encoded) ∧
        (encoded.after [.raise 0, .openEnvironment]).frame? 0 = some later ∧
        (Param.i64.decode word).outcome later = (.ok Int64.maxValue, later)) ∧
      (∃ word built, session.inEnvironment 0 (Frame.makeCharlist · "π") = some (word, built) ∧
        ∃ later, built.frame? 0 = some later ∧ (Param.text.decode word).outcome later =
          (.error (.shapeMismatch "binary or charlist"), later)) ∧
      ∃ again after, (Data.u32 5).encode.outcome frame = (.ok again, after) ∧
        after.decode? again = some (.int 5) := by
  have opened : (openEnvironment {}).2.frame? 0 = some ⟨{ id := 1 }, { nextEnv := 2 }⟩ := rfl
  have spare : Frame.Spare ⟨{ id := 1 }, { nextEnv := 2 }⟩ := ⟨by decide, by decide⟩
  obtain ⟨back, charlists, again⟩ := codec_round_trip opened spare
  refine ⟨_, _, opened, spare, ?_, ?_, ?_⟩
  · obtain ⟨word, encoded, done, stays⟩ := back .i64 Int64.maxValue rfl
    obtain ⟨later, there, read⟩ := stays [.raise 0, .openEnvironment]
    exact ⟨word, encoded, later, done, there, read⟩
  · have room : Frame.Room ⟨{ id := 1 }, { nextEnv := 2 }⟩ "π".length ∅ :=
      ⟨by decide, AtomTable.Admits.of_card (by decide)⟩
    obtain ⟨word, built, done, stays⟩ := charlists "π" room
    obtain ⟨later, there, -, refuses⟩ := stays []
    have high : ¬ ∀ c ∈ "π".toList, c.toNat ≤ 0xFF := by simp
    exact ⟨word, built, done, later, there, refuses high⟩
  · obtain ⟨value, word, after, -, encoded, -, means, -⟩ :=
      again .u32 ⟨95⟩ 5 rfl trivial fun _ found => by cases found
    exact ⟨word, after, encoded, means⟩

end Session

end Nif
