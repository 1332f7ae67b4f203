import Nif.Proofs.Charlists

/-!
**Reading in two steps: the size that is asked for first fits the copy that follows.**

* `Attempt.copies`: the statuses and buffers that an attempt gets from the copying symbols.
* `Attempt.Settles`: how an attempt ends that reads a text so. Its buffer is never too small, and
  what it takes of the buffer is all of the text.
* `Frame.sizes_fit`: names and charlists are read so.
-/

namespace Nif

/-! ### The copies of an attempt -/

/-- The status and the buffer that a symbol answers with, if it is one that copies. -/
def Request.copied? : (request : Request) → request.Reply → Option (Int32 × Bytes)
  | getAtom .., (status, filled) => filled.map fun bytes => (status, bytes)
  | getString .., (status, filled) => filled.map fun bytes => (status, bytes)
  | _, _ => none

/-- What the copying symbols answer to the calls of a program. -/
def Program.copies {α : Type} (program : Program α) (frame : Frame) : List (Int32 × Bytes) :=
  (program.calls frame).filterMap fun made => made.1.copied? (made.1.perform made.2).1

namespace Attempt

variable {α β : Type}

/-- What the copying symbols answer to the calls of an attempt. -/
def copies (attempt : Attempt α) (frame : Frame) : List (Int32 × Bytes) :=
  Program.copies attempt.run frame

@[simp] theorem copies_pure (result : α) (frame : Frame) : copies (pure result) frame = [] := rfl

@[simp] theorem copies_ofExcept (result : Except Fault α) (frame : Frame) :
    copies (liftM result : Attempt α) frame = [] := rfl

@[simp] theorem copies_lift (program : Program α) (frame : Frame) :
    copies (liftM program : Attempt α) frame = program.copies frame := by
  have alone : (liftM program : Attempt α).run.calls frame = program.calls frame :=
    (Program.calls_bind program
      (fun result => pure (Except.ok result : Except Fault α)) frame).trans (List.append_nil _)
  rw [copies, Program.copies, alone, Program.copies]

/-- The copies of one attempt after the other, up to the first failure. -/
@[simp] theorem copies_bind (attempt : Attempt α) (next : α → Attempt β) (frame : Frame) :
    copies (attempt >>= next) frame = copies attempt frame ++
      match outcome attempt frame with
      | (.ok result, after) => copies (next result) after
      | (.error _, _) => [] := by
  rw [copies, Program.copies, ExceptT.run_bind, Program.calls_bind, List.filterMap_append, outcome]
  rcases attempt.run.run frame with ⟨_ | _, after⟩ <;> rfl

/-- How an attempt ends that reads a text in two steps, where there is a text to be read or a fault
says why not. The text is read with one character for each byte. The buffer has room for all of it:
it is never reported to be too small, no copy is cut off, and what is taken of the buffer lies
within it and is all of the text. -/
structure Settles (attempt : Attempt String) (frame : Frame) (reads : Bytes → Prop)
    (faults : Fault → Prop) : Prop where
  ok_iff : ∀ text, (attempt.outcome frame).1 = .ok text ↔ ∃ bytes, reads bytes ∧ text = bytes.latin1
  error_iff : ∀ fault, (attempt.outcome frame).1 = .error fault ↔ faults fault
  roomy : ∀ needed, (attempt.outcome frame).1 ≠ .error (.bufferTooSmall needed)
  copied : ∀ bytes, reads bytes →
    ∃ status, attempt.copies frame = [(status, bytes ++ [0])] ∧ status.toInt = bytes.length + 1
  uncut : ∀ copy ∈ attempt.copies frame, 0 ≤ copy.1
  taken : ∀ copy ∈ attempt.copies frame, 0 < copy.1 →
    copy.1.toInt.toNat - 1 ≤ copy.2.length ∧ reads (copy.2.take (copy.1.toInt.toNat - 1))
  unchanged : (attempt.outcome frame).2 = frame

variable {attempt : Attempt String} {frame : Frame} {reads : Bytes → Prop} {faults : Fault → Prop}

/-- An attempt that has copied the whole text. -/
theorem settles_of_text {bytes : Bytes} (short : bytes.length ≤ 0x40000000)
    (only : ∀ other, reads other ↔ other = bytes) (faultless : ∀ fault, ¬ faults fault)
    (ends : attempt.outcome frame = (.ok bytes.latin1, frame))
    (copied : attempt.copies frame = [(Int32.ofNat (bytes.length + 1), bytes ++ [0])]) :
    attempt.Settles frame reads faults := by
  have positive := Read.status_pos short
  have status := Read.toInt_status short
  have taken : (Int32.ofNat (bytes.length + 1)).toInt.toNat - 1 = bytes.length := by
    rw [status]
    omega
  refine ⟨?_, ?_, ?_, ?_, ?_, ?_, by rw [ends]⟩ <;>
    simp only [ends, copied, only, List.forall_mem_singleton]
  · simp [eq_comm]
  · simp [faultless]
  · simp
  · rintro other rfl
    exact ⟨_, rfl, status⟩
  · exact Int32.le_of_lt positive
  · rw [taken]
    simp

/-- An attempt that fails, with no copy made. -/
theorem settles_of_fault {fault : Fault} (unreadable : ∀ bytes, ¬ reads bytes)
    (only : ∀ other, faults other ↔ other = fault)
    (other : ∀ needed, fault ≠ .bufferTooSmall needed)
    (ends : attempt.outcome frame = (.error fault, frame))
    (refused : ∀ copy ∈ attempt.copies frame, copy.1 = 0) : attempt.Settles frame reads faults := by
  refine ⟨?_, ?_, ?_, ?_, ?_, ?_, by rw [ends]⟩
  · simp [ends, unreadable]
  · simp [ends, only, eq_comm]
  · simpa [ends] using other
  · exact fun bytes readable => absurd readable (unreadable bytes)
  · intro copy made
    rw [refused copy made]
    exact Int32.le_refl 0
  · intro copy made positive
    rw [refused copy made] at positive
    exact (Int32.lt_irrefl positive).elim

end Attempt

namespace Read

variable {frame : Frame} {word : Word}

/-- Asking for a size copies nothing. -/
theorem copies_storeLength {symbol : Program (Int32 × Option UInt32)}
    (nothing : symbol.copies frame = []) (fault : Fault) :
    Attempt.copies (do
        let (status, stored) ← (liftM symbol : Attempt _)
        ensure status fault
        return (stored.getD 0).toNat) frame = [] := by
  simp only [Attempt.copies_bind, Attempt.copies_lift, nothing, Attempt.copies_ofExcept,
    Attempt.copies_pure, List.nil_append]
  split <;> first | rfl | (split <;> rfl)

theorem copies_atomLength : (atomLength word).copies frame = [] := copies_storeLength rfl _

theorem copies_listLength : (listLength word).copies frame = [] := copies_storeLength rfl _

/-- What a symbol is answered with is the one copy that its program makes. -/
theorem copies_getAtom {buffer : Option Bytes} {encoding : UInt32} {status : Int32} {filled : Bytes}
    (answer : Request.getAtomInto frame word buffer encoding = (status, some filled)) :
    (Symbol.getAtom word buffer encoding).copies frame = [(status, filled)] := by
  simp only [Program.copies, Symbol.getAtom, Program.ofRequest, Program.calls, List.filterMap_cons,
    Request.copied?, Request.perform, answer, Option.map_some, List.filterMap_nil]

theorem copies_getString {buffer : Option Bytes} {encoding : UInt32} {status : Int32}
    {filled : Bytes}
    (answer : Request.getStringInto frame word buffer encoding = (status, some filled)) :
    (Symbol.getString word buffer encoding).copies frame = [(status, filled)] := by
  simp only [Program.copies, Symbol.getString, Program.ofRequest, Program.calls,
    List.filterMap_cons,
    Request.copied?, Request.perform, answer, Option.map_some, List.filterMap_nil]

/-- If no more is copied when the size is asked for and in the end, there is just the one copy. -/
theorem copies_twoSteps {asking : Attempt Nat} (copying : Bytes → Program (Int32 × Option Bytes))
    {ending : Nat → Int32 × Option Bytes → Attempt String} {count : Nat}
    {answer : Int32 × Option Bytes} {copied : List (Int32 × Bytes)}
    (asked : asking.outcome frame = (.ok count, frame)) (silent : asking.copies frame = [])
    (short : count ≤ 0x40000000)
    (answered : (copying (List.replicate (count + 1) 0)).run frame = (answer, frame))
    (made : (copying (List.replicate (count + 1) 0)).copies frame = copied)
    (last : (ending count answer).copies frame = []) :
    Attempt.copies (do
        let count ← asking
        let zeros ← (liftM (buffer (count + 1)) : Attempt Bytes)
        let answer ← (liftM (copying zeros) : Attempt _)
        ending count answer) frame = copied := by
  have small : count + 1 < 0x100000000 := by omega
  simp only [Attempt.copies_bind, asked, silent, buffer_of_lt small, Attempt.outcome_ofExcept,
    Attempt.copies_ofExcept, Attempt.outcome_lift, Attempt.copies_lift, answered, made, last,
    List.nil_append, List.append_nil]

/-- A name is copied once, and whole. -/
theorem copies_atom (frame : Frame) (word : Word) :
    (atom word).copies frame =
      ((frame.atom? word).map fun name => (Int32.ofNat (name.length + 1), name ++ [0])).toList := by
  have asked : (atomLength word).outcome frame = _ := outcome_atomLength
  cases named : frame.atom? word with
  | none =>
    rw [named] at asked
    rw [atom, Attempt.copies_bind, copies_atomLength, asked]
    rfl
  | some name =>
    rw [named] at asked
    have short := short_of_atom? named
    have answer := getAtomInto_zeros named
    refine copies_twoSteps (fun zeros => Symbol.getAtom word (some zeros) _) asked
      copies_atomLength short
      (congrArg (fun answer => (answer, frame)) answer) (copies_getAtom answer) ?_
    dsimp only
    rw [if_neg (Int32.not_le.mpr (status_pos short))]
    rfl

/-- A charlist is copied once, and whole. What is a list but no charlist leaves its buffer of zeros
as it was. -/
theorem copies_charlist (frame : Frame) (word : Word) :
    (charlist word).copies frame =
      ((frame.env.list? word).map fun elements =>
        match Request.string? frame.env word with
        | some text => (Int32.ofNat (text.length + 1), text ++ [0])
        | none => (0, List.replicate (elements.length + 1) 0)).toList := by
  have asked : (listLength word).outcome frame = _ := outcome_listLength
  cases inList : frame.env.list? word with
  | none =>
    rw [inList] at asked
    rw [charlist, Attempt.copies_bind, copies_listLength, asked]
    rfl
  | some elements =>
    rw [inList] at asked
    have short := short_of_list? inList
    cases isText : Request.string? frame.env word with
    | none =>
      have answer := getStringInto_of_no_text isText (some (List.replicate (elements.length + 1) 0))
        Interface.latin1
      exact copies_twoSteps (fun zeros => Symbol.getString word (some zeros) _) asked
        copies_listLength short
        (congrArg (fun answer => (answer, frame)) answer) (copies_getString answer) rfl
    | some text =>
      have answer := getStringInto_zeros inList isText
      refine copies_twoSteps (fun zeros => Symbol.getString word (some zeros) _) asked
        copies_listLength short
        (congrArg (fun answer => (answer, frame)) answer) (copies_getString answer) ?_
      rw [← length_of_string? inList isText] at short
      have positive := status_pos short
      dsimp only
      rw [if_neg (Int32.ne_of_lt positive).symm,
        if_neg (Int32.not_lt.mpr (Int32.le_of_lt positive))]
      rfl

/-- **An atom is read in two steps that fit**, and nothing else is. -/
theorem atom_settles (frame : Frame) (word : Word) :
    (atom word).Settles frame (fun name => frame.atom? word = some name)
      fun fault => fault = .shapeMismatch "atom" ∧ ∀ name, frame.atom? word ≠ some name := by
  have ends := outcome_name frame word
  have copied := copies_atom frame word
  cases named : frame.atom? word with
  | none =>
    rw [named] at ends copied
    refine Attempt.settles_of_fault (by simp) (by simp) (by simp) ends ?_
    rw [copied]
    exact List.forall_mem_nil _
  | some name =>
    rw [named] at ends copied
    exact Attempt.settles_of_text (short_of_atom? named) (by simp [eq_comm]) (by simp) ends copied

/-- **A charlist is read in two steps that fit.** What is no proper list fails at the first step,
and a list with an element that is no byte fails at the second. -/
theorem charlist_settles {frame : Frame} (grounded : frame.env.Grounded) (word : Word) :
    (charlist word).Settles frame (frame.env.IsCharlist word) fun fault =>
      (fault = .shapeMismatch "proper list" ∧ ∀ elements, ¬ frame.env.IsList word elements) ∨
      (fault = .shapeMismatch "Latin-1 charlist" ∧ ∃ elements, frame.env.IsList word elements ∧
        ∃ element ∈ elements, ∀ byte : UInt8,
          frame.env.int? element ≠ some (Int64.ofNat byte.toNat)) := by
  have ends := outcome_text frame word
  have copied := copies_charlist frame word
  have textIff : ∀ text, Request.string? frame.env word = some text ↔
      frame.env.IsCharlist word text :=
    fun text => grounded.string?_eq_some_iff
  cases inList : frame.env.list? word with
  | none =>
    have noList : ∀ elements, ¬ frame.env.IsList word elements := fun elements list =>
      Option.some_ne_none _ ((grounded.list?_eq_some_iff.mpr list).symm.trans inList)
    have unreadable : ∀ text, ¬ frame.env.IsCharlist word text :=
      fun text ⟨elements, list, _⟩ => noList elements list
    rw [inList] at ends copied
    refine Attempt.settles_of_fault unreadable (by simp [noList]) (by simp) ends ?_
    rw [copied]
    exact List.forall_mem_nil _
  | some elements =>
    have list := grounded.list?_eq_some_iff.mp inList
    rw [inList] at ends copied
    cases isText : Request.string? frame.env word with
    | none =>
      have unreadable : ∀ text, ¬ frame.env.IsCharlist word text := fun text isCharlist =>
        Option.some_ne_none _ (((textIff text).mpr isCharlist).symm.trans isText)
      have odd : ∃ element ∈ elements, ∀ byte : UInt8,
          frame.env.int? element ≠ some (Int64.ofNat byte.toNat) := by
        by_contra even
        push Not at even
        obtain ⟨text, isCharlist⟩ := list.exists_charlist_iff.mpr even
        exact unreadable text isCharlist
      rw [isText] at ends copied
      refine Attempt.settles_of_fault unreadable (fun fault => ⟨?_, ?_⟩) (by simp) ends ?_
      · rintro (⟨-, noList⟩ | ⟨rfl, -⟩)
        · exact absurd list (noList elements)
        · rfl
      · rintro rfl
        exact .inr ⟨rfl, elements, list, odd⟩
      · rw [copied]
        exact List.forall_mem_singleton.mpr rfl
    | some text =>
      have readable := (textIff text).mp isText
      have short : text.length ≤ 0x40000000 :=
        length_of_string? inList isText ▸ short_of_list? inList
      have only : ∀ other, frame.env.IsCharlist word other ↔ other = text := by
        intro other
        rw [← textIff, isText, Option.some.injEq, eq_comm]
      rw [isText] at ends copied
      refine Attempt.settles_of_text short only ?_ ends copied
      rintro fault (⟨-, noList⟩ | ⟨-, others, again, element, member, odd⟩)
      · exact noList elements list
      · obtain ⟨byte, isByte⟩ := again.exists_charlist_iff.mp ⟨text, readable⟩ element member
        exact odd byte isByte

end Read

/-- **The size that is asked for fits the copy that follows.** On a grounded heap a name is read
exactly if the word is an atom, and a charlist exactly if the word is a proper list of bytes. Any
other word is refused for what it is not, never for want of room. -/
theorem Frame.sizes_fit {frame : Frame} (grounded : frame.env.Grounded) (word : Word) :
    ((Read.atom word).Settles frame (fun name => frame.atom? word = some name)
      fun fault => fault = .shapeMismatch "atom" ∧ ∀ name, frame.atom? word ≠ some name) ∧
    (Read.charlist word).Settles frame (frame.env.IsCharlist word) fun fault =>
      (fault = .shapeMismatch "proper list" ∧ ∀ elements, ¬ frame.env.IsList word elements) ∨
      (fault = .shapeMismatch "Latin-1 charlist" ∧ ∃ elements, frame.env.IsList word elements ∧
        ∃ element ∈ elements, ∀ byte : UInt8,
          frame.env.int? element ≠ some (Int64.ofNat byte.toNat)) :=
  ⟨Read.atom_settles frame word, Read.charlist_settles grounded word⟩

/-- A charlist with a zero in it, which is read with the zero and is no atom, and an atom of a
character beyond ASCII, which is no list. -/
theorem Frame.sizes_fit_zero :
    ∃ (frame : Frame) (text named : Word), frame.env.Grounded ∧
      ((Read.charlist text).outcome frame).1 = .ok "\u00E9\x00" ∧
      (∃ status, (Read.charlist text).copies frame = [(status, [0xE9, 0, 0])] ∧ status.toInt = 3) ∧
      ((Read.atom text).outcome frame).1 = .error (.shapeMismatch "atom") ∧
      ((Read.atom named).outcome frame).1 = .ok "\u00E9" ∧
      ((Read.charlist named).outcome frame).1 = .error (.shapeMismatch "proper list") := by
  obtain ⟨made, grounded, isText, unnamed, isName, noList⟩ : ∃ made : Word × Frame,
      made.2.env.Grounded ∧
      Request.string? made.2.env made.1 = some [0xE9, 0] ∧ made.2.atom? made.1 = none ∧
      made.2.atom? (Word.ofAtomIndex 0) = some [0xE9] ∧
        made.2.env.list? (Word.ofAtomIndex 0) = none :=
    ⟨((⟨{ id := 1 }, {}⟩ : Frame).makeAtom [0xE9]).2.makeCharlist "\u00E9\x00",
      makeCharlist_grounded (Environment.grounded_of_empty rfl) _, by rfl, by rfl, by rfl, by rfl⟩
  obtain ⟨textAtom, textList⟩ := Frame.sizes_fit grounded made.1
  obtain ⟨nameAtom, nameList⟩ := Frame.sizes_fit grounded (Word.ofAtomIndex 0)
  have readable := grounded.string?_eq_some_iff.mp isText
  refine ⟨made.2, made.1, Word.ofAtomIndex 0, grounded, ?_, ?_, ?_, ?_, ?_⟩
  · exact (textList.ok_iff _).mpr ⟨_, readable, by decide⟩
  · exact textList.copied _ readable
  · exact (textAtom.error_iff _).mpr ⟨rfl, by simp [unnamed]⟩
  · exact (nameAtom.ok_iff _).mpr ⟨_, isName, by decide⟩
  · refine (nameList.error_iff _).mpr (.inl ⟨rfl, fun elements list => ?_⟩)
    exact Option.some_ne_none _ ((grounded.list?_eq_some_iff.mpr list).symm.trans noList)

end Nif
