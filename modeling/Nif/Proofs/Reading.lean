import Nif.NativeFunction
import Nif.Proofs.Building
import Nif.Proofs.Inspection

/-!
**Arguments are read from their meanings.**

* `Read.outcome_int`, `Read.outcome_long`, and so on: what each reading gives, from what the word
  shows.
* `Param.read`: what a parameter takes from a meaning; `Param.outcome_decode`: an argument is read
  so, and nothing is touched.
* `Arguments.read`, `outcome_decodeArguments`: the same for all arguments.
-/

namespace Nif

/-- What was found, or the fault that it was not. -/
def expect {α : Type} (found : Option α) (fault : Fault) : Except Fault α :=
  match found with
  | some value => .ok value
  | none => .error fault

namespace Read

variable {frame : Frame} {word : Word} {value : Value}

/-- A symbol that stores what it finds, and the check of its status. -/
theorem outcome_store {α : Type} {symbol : Program (Int32 × Option α)} {found : Option α}
    (before : α)
    (answer : symbol.run frame = (Request.store found (some before), frame)) (fault : Fault) :
    Attempt.outcome (do
        let (status, stored) ← (liftM symbol : Attempt _)
        ensure status fault
        return stored.getD before) frame = (expect found fault, frame) := by
  rw [Attempt.outcome_bind, Attempt.outcome_lift, answer]
  cases found <;> rfl

theorem outcome_int (shows : frame.Shows word value) :
    (int word).outcome frame =
      (expect (value.int?.bind Request.narrow?) (.shapeMismatch "integer fitting in int"),
        frame) := by
  rw [← shows.int]
  exact outcome_store 0 (Symbol.run_getInt word (some 0) frame) _

theorem outcome_long (shows : frame.Shows word value) :
    (long word).outcome frame =
      (expect value.int? (.shapeMismatch "integer fitting in long"), frame) := by
  rw [← shows.int]
  exact outcome_store 0 (Symbol.run_getLong word (some 0) frame) _

theorem outcome_double (shows : frame.Shows word value) :
    (double word).outcome frame = (expect value.float? (.shapeMismatch "float"), frame) := by
  rw [← shows.float]
  exact outcome_store 0 (Symbol.run_getDouble word (some 0) frame) _

theorem outcome_binary (shows : frame.Shows word value) :
    (binary word).outcome frame = (expect value.binary? (.shapeMismatch "binary"), frame) := by
  rw [← shows.binary]
  unfold binary
  rw [Attempt.outcome_bind, Attempt.outcome_lift, Symbol.run_inspectBinary]
  cases frame.env.binary? word <;> rfl

/-! ### Names and texts, read in two steps -/

/-- A text that is short enough for its length to be a status. -/
theorem toInt_status {count : Nat} (short : count ≤ 0x40000000) :
    (Int32.ofNat (count + 1)).toInt = count + 1 := by
  rw [Int32.toInt_ofNat_of_lt (by omega)]
  rfl

theorem status_pos {count : Nat} (short : count ≤ 0x40000000) : 0 < Int32.ofNat (count + 1) := by
  rw [Int32.lt_iff_toInt_lt, toInt_status short]
  exact Int.natCast_succ_pos count

/-- A buffer that is larger by one takes the whole text and a zero. -/
theorem overwrite_zeros (text : Bytes) :
    Request.overwrite (List.replicate (text.length + 1) 0) (text ++ [0]) = text ++ [0] := by
  simp [Request.overwrite]

theorem written_status {text : Bytes} (short : text.length ≤ 0x40000000) :
    written (Int32.ofNat (text.length + 1)) (some (text ++ [0])) = text.latin1 := by
  have count : (Int32.ofNat (text.length + 1)).toInt.toNat - 1 = text.length := by
    rw [toInt_status short]
    omega
  rw [written, count, Option.getD_some, List.take_left]

theorem buffer_of_lt {needed : Nat} (small : needed < 0x100000000) :
    buffer needed = .ok (List.replicate needed 0) := by
  rw [buffer, Request.length?, if_pos small]

theorem short_of_atom? {name : Bytes} (named : frame.atom? word = some name) :
    name.length ≤ 0x40000000 := by
  obtain ⟨index, -, found⟩ := Option.bind_eq_some_iff.mp named
  have short := frame.host.atoms.short name (List.mem_of_getElem? found)
  rw [Interface.maxAtomLength] at short
  omega

theorem short_of_list? {elements : List Word} (found : frame.env.list? word = some elements) :
    elements.length ≤ 0x40000000 :=
  (Environment.length_le_of_list? found).trans frame.env.size_le

/-- A length that was stored as 32 bits. -/
theorem outcome_storeLength {symbol : Program (Int32 × Option UInt32)} {length : Option Nat}
    (small : ∀ count ∈ length, count < 0x100000000)
    (answer : symbol.run frame = (Request.store (length.map UInt32.ofNat) (some 0), frame))
    (fault : Fault) :
    Attempt.outcome (do
        let (status, stored) ← (liftM symbol : Attempt _)
        ensure status fault
        return (stored.getD 0).toNat) frame = (expect length fault, frame) := by
  rw [Attempt.outcome_bind, Attempt.outcome_lift, answer]
  cases length with
  | none => rfl
  | some count =>
    have whole : (UInt32.ofNat count).toNat = count := by
      rw [UInt32.toNat_ofNat', Nat.mod_eq_of_lt (small count rfl)]
    show (Except.ok (UInt32.ofNat count).toNat, frame) = _
    rw [whole]
    rfl

/-- The lengths of names and lists are stored as they are. -/
theorem atomLength_lt : ∀ count ∈ (frame.atom? word).map List.length, count < 0x100000000 := by
  intro count found
  obtain ⟨name, named, rfl⟩ := Option.map_eq_some_iff.mp found
  exact (short_of_atom? named).trans_lt (by omega)

theorem listLength_lt : ∀ count ∈ (frame.env.list? word).map List.length, count < 0x100000000 := by
  intro count found
  obtain ⟨elements, inList, rfl⟩ := Option.map_eq_some_iff.mp found
  exact (short_of_list? inList).trans_lt (by omega)

theorem run_getAtomLength_latin1 (frame : Frame) (word : Word) (out : Option UInt32) :
    (Symbol.getAtomLength word out Interface.latin1).run frame =
      (Request.store (((frame.atom? word).map List.length).map UInt32.ofNat) out, frame) := by
  rw [Symbol.run_getAtomLength, if_pos rfl, Option.map_map]
  rfl

theorem run_getListLength_short (frame : Frame) (word : Word) (out : Option UInt32) :
    (Symbol.getListLength word out).run frame =
      (Request.store (((frame.env.list? word).map List.length).map UInt32.ofNat) out, frame) := by
  rw [Symbol.run_getListLength]
  cases found : frame.env.list? word with
  | none => rfl
  | some elements =>
    rw [Option.bind_some, Request.length?, if_pos (listLength_lt _ (by rw [found]; rfl))]
    rfl

theorem outcome_atomLength :
    (atomLength word).outcome frame =
      (expect ((frame.atom? word).map List.length) (.shapeMismatch "atom"), frame) :=
  outcome_storeLength atomLength_lt (run_getAtomLength_latin1 frame word (some 0)) _

theorem outcome_listLength :
    (listLength word).outcome frame =
      (expect ((frame.env.list? word).map List.length) (.shapeMismatch "proper list"), frame) :=
  outcome_storeLength listLength_lt (run_getListLength_short frame word (some 0)) _

/-- A length that was asked for, and a copy into a buffer of one byte more: what follows starts from
the answer. -/
theorem outcome_twoSteps {asking : Attempt Nat} (copying : Bytes → Program (Int32 × Option Bytes))
    {ending : Nat → Int32 × Option Bytes → Attempt String} {count : Nat}
    {answer : Int32 × Option Bytes}
    (asked : asking.outcome frame = (.ok count, frame)) (short : count ≤ 0x40000000)
    (answered : (copying (List.replicate (count + 1) 0)).run frame = (answer, frame)) :
    Attempt.outcome (do
        let count ← asking
        let zeros ← (liftM (buffer (count + 1)) : Attempt Bytes)
        let answer ← (liftM (copying zeros) : Attempt _)
        ending count answer) frame = (ending count answer).outcome frame := by
  have small : count + 1 < 0x100000000 := by omega
  simp only [Attempt.outcome_bind, asked, buffer_of_lt small, Attempt.outcome_ofExcept,
    Attempt.outcome_lift, answered]

/-- A buffer of one byte more than the name takes the name. -/
theorem getAtomInto_zeros {name : Bytes} (named : frame.atom? word = some name) :
    Request.getAtomInto frame word (some (List.replicate (name.length + 1) 0)) Interface.latin1 =
      (Int32.ofNat (name.length + 1), some (name ++ [0])) := by
  rw [Request.getAtomInto, if_pos rfl, named]
  simp only [Request.copyName, List.length_replicate, le_refl, if_true, overwrite_zeros]

/-- The name of an atom fits into a buffer of the size that was asked for. -/
theorem outcome_name (frame : Frame) (word : Word) :
    (atom word).outcome frame =
      (expect ((frame.atom? word).map Bytes.latin1) (.shapeMismatch "atom"), frame) := by
  have asked : (atomLength word).outcome frame = _ := outcome_atomLength
  cases named : frame.atom? word with
  | none =>
    rw [named] at asked
    rw [atom, Attempt.outcome_bind, asked]
    rfl
  | some name =>
    rw [named] at asked
    have short := short_of_atom? named
    have answered := congrArg (fun answer => (answer, frame)) (getAtomInto_zeros named)
    refine (outcome_twoSteps (fun zeros => Symbol.getAtom word (some zeros) _) asked short
      answered).trans ?_
    dsimp only
    rw [if_neg (Int32.not_le.mpr (status_pos short)), written_status short]
    rfl

theorem outcome_atom (shows : frame.Shows word value) :
    (atom word).outcome frame = (expect value.atom? (.shapeMismatch "atom"), frame) := by
  rw [← shows.atom]
  exact outcome_name frame word

/-- A charlist has as many elements as its text has bytes. -/
theorem length_of_string? {elements : List Word} {text : Bytes}
    (inList : frame.env.list? word = some elements)
    (isText : Request.string? frame.env word = some text) :
    text.length = elements.length := by
  rw [Request.string?, inList] at isText
  exact (mapM_eq_some_iff.mp isText).length_eq.symm

/-- A buffer of one byte more than the list has elements takes the text. -/
theorem getStringInto_zeros {elements : List Word} {text : Bytes}
    (inList : frame.env.list? word = some elements)
    (isText : Request.string? frame.env word = some text) :
    Request.getStringInto frame word (some (List.replicate (elements.length + 1) 0))
      Interface.latin1 = (Int32.ofNat (text.length + 1), some (text ++ [0])) := by
  have room : Interface.latin1 = Interface.latin1 ∧
      List.replicate (elements.length + 1) (0 : UInt8) ≠ [] :=
    ⟨rfl, List.cons_ne_nil _ _⟩
  rw [Request.getStringInto, if_pos room, isText, ← length_of_string? inList isText]
  simp only [Request.copyText, List.length_replicate, Nat.lt_succ_self, if_true, overwrite_zeros]

/-- Every buffer is left as it is for what is no charlist. -/
theorem getStringInto_of_no_text (noText : Request.string? frame.env word = none)
    (buffer : Option Bytes)
    (encoding : UInt32) : Request.getStringInto frame word buffer encoding = (0, buffer) := by
  cases buffer with
  | none => rfl
  | some bytes => simp [Request.getStringInto, noText]

/-- The text of a charlist fits into a buffer of the size that was asked for. -/
theorem outcome_text (frame : Frame) (word : Word) :
    (charlist word).outcome frame =
      (do
        let _ ← expect (frame.env.list? word) (.shapeMismatch "proper list")
        expect ((Request.string? frame.env word).map Bytes.latin1)
          (.shapeMismatch "Latin-1 charlist"), frame) := by
  have asked : (listLength word).outcome frame = _ := outcome_listLength
  cases inList : frame.env.list? word with
  | none =>
    rw [inList] at asked
    rw [charlist, Attempt.outcome_bind, asked]
    rfl
  | some elements =>
    rw [inList] at asked
    have short := short_of_list? inList
    cases isText : Request.string? frame.env word with
    | none =>
      have answered := congrArg (fun answer => (answer, frame)) (getStringInto_of_no_text isText
        (some (List.replicate (elements.length + 1) 0)) Interface.latin1)
      refine (outcome_twoSteps (fun zeros => Symbol.getString word (some zeros) _) asked short
        answered).trans ?_
      rfl
    | some text =>
      have answered := congrArg (fun answer => (answer, frame)) (getStringInto_zeros inList isText)
      refine (outcome_twoSteps (fun zeros => Symbol.getString word (some zeros) _) asked short
        answered).trans ?_
      rw [← length_of_string? inList isText] at short
      have positive := status_pos short
      dsimp only
      rw [if_neg (Int32.ne_of_lt positive).symm,
        if_neg (Int32.not_lt.mpr (Int32.le_of_lt positive)), written_status short]
      rfl

theorem outcome_charlist (shows : frame.Shows word value) :
    (charlist word).outcome frame =
      (do
        let _ ← expect value.list? (.shapeMismatch "proper list")
        expect (value.string?.map Bytes.latin1) (.shapeMismatch "Latin-1 charlist"), frame) := by
  have length := shows.length
  rw [← shows.string, outcome_text]
  cases inList : frame.env.list? word with
  | none =>
    rw [inList] at length
    rw [Option.map_eq_none_iff.mp length.symm]
    rfl
  | some elements =>
    rw [inList] at length
    obtain ⟨values, isList, -⟩ := Option.map_eq_some_iff.mp length.symm
    rw [isList]
    rfl

end Read

/-! ### Parameters -/

/-- What a parameter of this type takes from a meaning, or why it takes nothing. -/
def Param.read : (param : Param) → Value → Except Fault param.Carrier
  | i32, value => expect (value.int?.bind Request.narrow?) (.shapeMismatch "integer fitting in int")
  | u32, value => do
    let number ← expect value.int? (.shapeMismatch "integer fitting in long")
    if 0 ≤ number ∧ number < 0x100000000 then .ok number.toUInt64.toUInt32
    else .error (.shapeMismatch "non-negative integer fitting in u32")
  | i64, value => expect value.int? (.shapeMismatch "integer fitting in long")
  | f64, value => expect value.float? (.shapeMismatch "float")
  | bool, value => do
    match ← expect value.atom? (.shapeMismatch "atom") with
    | "true" => .ok true
    | "false" => .ok false
    | _ => .error (.shapeMismatch "boolean")
  | text, value =>
    match value.binary? with
    | some held => expect held.utf8? .invalidUtf8
    | none => expect (value.string?.map Bytes.latin1) (.shapeMismatch "binary or charlist")
  | bytes, value => expect value.binary? (.shapeMismatch "binary")
  | atom, value => expect value.atom? (.shapeMismatch "atom")

namespace Param

variable {frame : Frame} {word : Word} {value : Value}

theorem outcome_decodeUnsigned (shows : frame.Shows word value) :
    (decodeUnsigned word).outcome frame = (u32.read value, frame) := by
  rw [decodeUnsigned, Attempt.outcome_bind, Read.outcome_long shows, read]
  cases value.int? with
  | none => rfl
  | some number =>
    show Attempt.outcome (if 0 ≤ number ∧ number < 0x100000000 then _ else _) frame =
      (if _ then _ else _, frame)
    split <;> rfl

theorem outcome_decodeBool (shows : frame.Shows word value) :
    (decodeBool word).outcome frame = (bool.read value, frame) := by
  rw [decodeBool, Attempt.outcome_bind, Read.outcome_atom shows, read]
  cases value.atom? with
  | none => rfl
  | some name =>
    show Attempt.outcome (match name with | "true" => _ | "false" => _ | _ => _) frame =
      (match name with | "true" => _ | "false" => _ | _ => _, frame)
    split <;> rfl

/-- Text is tried as a binary first, and as a charlist only if it is none. -/
theorem outcome_decodeText (shows : frame.Shows word value) :
    (decodeText word).outcome frame = (text.read value, frame) := by
  have asBinary := Read.outcome_binary shows
  have asList := Read.outcome_charlist shows
  rw [decodeText, Attempt.outcome, ExceptT.run_mk, Program.run_bind]
  rw [Attempt.outcome] at asBinary asList
  rw [asBinary, read]
  cases value.binary? with
  | some held => cases utf8 : held.utf8? <;> simp [expect, utf8] <;> rfl
  | none =>
    show Program.run ((Read.charlist word).run >>= _) frame = _
    rw [Program.run_bind, asList]
    have textOnly : value.list? = none → value.string? = none := fun other => by
      rw [Value.string?, other, Option.bind_none]
    cases isList : value.list? with
    | none =>
      rw [textOnly isList]
      rfl
    | some elements => cases value.string? <;> rfl

/-- **An argument is read from what the word shows, and nothing is touched.** -/
theorem outcome_decode_of_shows (param : Param) (shows : frame.Shows word value) :
    (param.decode word).outcome frame = (param.read value, frame) := by
  cases param with
  | i32 => exact Read.outcome_int shows
  | u32 => exact outcome_decodeUnsigned shows
  | i64 => exact Read.outcome_long shows
  | f64 => exact Read.outcome_double shows
  | bool => exact outcome_decodeBool shows
  | text => exact outcome_decodeText shows
  | bytes => exact Read.outcome_binary shows
  | atom => exact Read.outcome_atom shows

/-- **An argument is read from its meaning**, if it has one. -/
theorem outcome_decode (param : Param) (means : frame.decode? word = some value) :
    (param.decode word).outcome frame = (param.read value, frame) :=
  param.outcome_decode_of_shows (Frame.shows means)

end Param

/-! ### Arguments -/

/-- What the parameters take from the meanings of the arguments, from left to right. -/
def Arguments.read : (params : List Param) → List Value → Except Fault (Arguments params)
  | [], _ => .ok ()
  | _ :: _, [] => .error .badArg
  | param :: params, value :: values => do
    let first ← param.read value
    let rest ← Arguments.read params values
    .ok (first, rest)

/-- **Arguments are read from their meanings, and nothing is touched.** -/
theorem outcome_decodeArguments {frame : Frame} {words : List Word} {values : List Value}
    (means : frame.Means words values) (params : List Param) :
    (decodeArguments params words).outcome frame = (Arguments.read params values, frame) := by
  induction params generalizing words values with
  | nil => rfl
  | cons param params ih =>
    cases means with
    | nil => rfl
    | @cons word value words values head rest =>
      rw [decodeArguments, Attempt.outcome_bind, param.outcome_decode head, Arguments.read]
      cases param.read value with
      | error fault => rfl
      | ok first =>
        show Attempt.outcome (decodeArguments params words >>= _) frame = _
        rw [Attempt.outcome_bind, ih rest]
        cases Arguments.read params values <;> rfl

end Nif
