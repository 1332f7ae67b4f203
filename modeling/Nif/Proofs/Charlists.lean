import Nif.Proofs.Answers
import Nif.Proofs.Traversal

/-!
**Lists of bytes on a heap, and how they are copied into a buffer.**

* `Environment.IsList`: a word is a proper list with these elements; `Environment.IsCharlist`: a
  proper list of these bytes.
* `Grounded.list?_eq_some_iff`, `Grounded.string?_eq_some_iff`: on a grounded heap these are the
  lists that are found when the tails are followed.
* `Program.Transcribes`: how a symbol answers that copies a text, cut off where the buffer ends.
* `Frame.getString_exact`: that charlists, and nothing else, are copied so.
-/

namespace Nif

/-- There are companions for all elements of a list exactly if there is one for each. -/
theorem exists_forall₂_iff {α β : Type} {related : α → β → Prop} {items : List α} :
    (∃ companions, List.Forall₂ related items companions) ↔
      ∀ item ∈ items, ∃ companion, related item companion := by
  induction items with
  | nil => simp
  | cons item rest ih => simp [List.forall₂_cons_left_iff, ← ih]

namespace Environment

variable {env : Environment} {word : Word} {elements : List Word} {text : Bytes}

/-! ### Lists on a heap -/

/-- The word is a proper list: the empty list, or a list cell whose tail is a proper list. -/
inductive IsList (env : Environment) : Word → List Word → Prop
  | nil : IsList env Word.nil []
  | cons {word head tail : Word} {elements : List Word}
      (stored : env.cell? word = some (.cons head tail))
      (rest : IsList env tail elements) : IsList env word (head :: elements)

/-- The word is a proper list of integers from 0 to 255, which are these bytes. -/
def IsCharlist (env : Environment) (word : Word) (text : Bytes) : Prop :=
  ∃ elements, env.IsList word elements ∧
    List.Forall₂ (fun element byte => env.int? element = some (Int64.ofNat byte.toNat))
      elements text

/-- Each tail has a smaller rank, so a list has no more elements than the rank of its word. -/
theorem IsList.length_le_rank (list : env.IsList word elements) (grounded : env.Grounded) :
    elements.length ≤ env.rank word := by
  induction list with
  | nil => exact Nat.zero_le _
  | @cons word head tail elements stored _ ih =>
    have lower :=
      grounded.rank_lt stored tail (List.mem_cons_of_mem _ (List.mem_singleton_self tail))
    exact Nat.succ_le_of_lt (ih.trans_lt lower)

/-- A list is found within any bound beyond its length. -/
theorem IsList.spineWithin (list : env.IsList word elements) {bound : Nat}
    (enough : elements.length < bound) :
    env.spineWithin bound word = .proper elements := by
  induction list generalizing bound with
  | nil =>
    obtain ⟨bound, rfl⟩ : ∃ rest, bound = rest + 1 := ⟨bound - 1, by omega⟩
    exact spineWithin_nil bound
  | @cons word head tail elements stored _ ih =>
    obtain ⟨bound, rfl⟩ : ∃ rest, bound = rest + 1 := ⟨bound - 1, by omega⟩
    rw [spineWithin_cons stored, ih (Nat.lt_of_succ_lt_succ enough)]
    rfl

/-- What is found to be a list is one. -/
theorem isList_of_spineWithin {bound : Nat} (ends : env.spineWithin bound word = .proper elements) :
    env.IsList word elements := by
  induction bound generalizing word elements with
  | zero => cases ends
  | succ bound ih =>
    unfold Environment.spineWithin at ends
    split at ends
    · rename_i empty
      cases ends
      exact empty ▸ .nil
    · split at ends
      · rename_i head tail stored
        obtain ⟨rest, tailEnds, rfl⟩ := Spine.cons_eq_proper_iff.mp ends
        exact .cons stored (ih tailEnds)
      · cases ends

/-- **On a grounded heap exactly the proper lists are found.** -/
theorem Grounded.list?_eq_some_iff (grounded : env.Grounded) :
    env.list? word = some elements ↔ env.IsList word elements := by
  rw [Environment.list?_eq_some_iff, spine]
  constructor
  · exact isList_of_spineWithin
  · intro list
    exact list.spineWithin
      (Nat.lt_succ_of_le ((list.length_le_rank grounded).trans (env.rank_le word)))

/-- **On a grounded heap exactly the charlists are found to have a text.** -/
theorem Grounded.string?_eq_some_iff (grounded : env.Grounded) :
    Request.string? env word = some text ↔ env.IsCharlist word text := by
  simp only [Request.string?, Option.bind_eq_some_iff, mapM_eq_some_iff, Request.byte?_eq_some_iff,
    grounded.list?_eq_some_iff, exists_eq_right, IsCharlist]

/-- A list has its elements alone. -/
theorem IsList.elements_eq (list : env.IsList word elements) {others : List Word}
    (again : env.IsList word others) :
    elements = others := by
  induction list generalizing others with
  | nil =>
    cases again with
    | nil => rfl
    | cons stored _ => cases stored.symm.trans cell?_nil
  | cons stored _ ih =>
    cases again with
    | nil => cases stored.symm.trans cell?_nil
    | cons storedToo rest =>
      obtain ⟨rfl, rfl⟩ := Cell.cons.inj (Option.some.inj (stored.symm.trans storedToo))
      rw [ih rest]

/-- **A proper list is a charlist exactly if each of its elements is an integer from 0 to 255.** -/
theorem IsList.exists_charlist_iff (list : env.IsList word elements) :
    (∃ text, env.IsCharlist word text) ↔
      ∀ element ∈ elements, ∃ byte : UInt8, env.int? element = some (Int64.ofNat byte.toNat) := by
  rw [← exists_forall₂_iff]
  constructor
  · rintro ⟨text, others, again, bytes⟩
    exact ⟨text, list.elements_eq again ▸ bytes⟩
  · rintro ⟨text, bytes⟩
    exact ⟨text, elements, list, bytes⟩

end Environment

/-! ### Copying a text -/

/-- How a symbol answers that copies a text into a buffer. A text that is shorter than the buffer is
copied whole, with a zero byte after it, and the status counts both. Of any other text as much is
copied as fits before a zero byte, and the status is the negated size of the buffer. Without a text
or without room the status is zero and the buffer is left as it was, and so it is with a null
environment. Nothing else changes. -/
structure Program.Transcribes (program : Program (Int32 × Option Bytes)) (frame : Frame)
    (buffer : Option Bytes) (finds : Bytes → Prop) : Prop where
  whole : ∀ text before, buffer = some before → finds text → text.length < before.length →
    (program.run frame).1.1.toInt = text.length + 1 ∧
      (program.run frame).1.2 = some (text ++ 0 :: before.drop (text.length + 1))
  cut : ∀ text before, buffer = some before → before ≠ [] → finds text →
    before.length ≤ text.length → (program.run frame).1.1.toInt = -before.length ∧
      (program.run frame).1.2 = some (text.take (before.length - 1) ++ [0])
  refused : (buffer = none ∨ buffer = some [] ∨ ∀ text, ¬ finds text) →
    (program.run frame).1 = (0, buffer)
  positive_iff : 0 < (program.run frame).1.1 ↔
    ∃ text before, buffer = some before ∧ finds text ∧ text.length < before.length
  within : ∀ before, buffer = some before → (program.run frame).1.1.toInt.natAbs ≤ before.length
  /-- Neither a length that is converted to the status nor its negation overflows. -/
  fits : ∀ text, finds text → ∀ count ≤ text.length + 1,
    (Int32.ofNat count).toInt = count ∧ (-Int32.ofNat count).toInt = -count
  unchanged : (program.run frame).2 = frame
  detached : program.FailsDetached buffer

/-- The counts up to a little more than the number of slots are exact as a status, and so are their
negations. -/
theorem toInt_count {count : Nat} (small : count ≤ 0x40000001) :
    (Int32.ofNat count).toInt = count ∧ (-Int32.ofNat count).toInt = -count := by
  have exact : (Int32.ofNat count).toInt = count := Int32.toInt_ofNat_of_lt (by omega)
  refine ⟨exact, ?_⟩
  rw [Int32.toInt_neg, exact]
  exact Int.bmod_eq_of_le (by omega) (by omega)

/-- A buffer is refused, or there is a text for it. -/
theorem refused_or_found (buffer : Option Bytes) (finds : Bytes → Prop) :
    (buffer = none ∨ buffer = some [] ∨ ∀ text, ¬ finds text) ∨
      ∃ text before, buffer = some before ∧ before ≠ [] ∧ finds text := by
  by_cases found : ∃ text, finds text
  · obtain ⟨text, isText⟩ := found
    rcases buffer with - | before
    · exact .inl (.inl rfl)
    · by_cases empty : before = []
      · exact .inl (.inr (.inl (congrArg some empty)))
      · exact .inr ⟨text, before, rfl, empty, isText⟩
  · exact .inl (.inr (.inr (not_exists.mp found)))

/-- **What the status says follows from the three endings**: a text that is shorter than the buffer,
any other text, and no text or no room. -/
theorem Program.transcribes_of_endings {program : Program (Int32 × Option Bytes)} {frame : Frame}
    {buffer : Option Bytes} {finds : Bytes → Prop}
    (short : ∀ text, finds text → text.length ≤ 0x40000000)
    (whole : ∀ text before, buffer = some before → finds text → text.length < before.length →
      program.run frame =
        ((Int32.ofNat (text.length + 1), some (text ++ 0 :: before.drop (text.length + 1))), frame))
    (cut : ∀ text before, buffer = some before → before ≠ [] → finds text →
      before.length ≤ text.length → program.run frame =
        ((-Int32.ofNat before.length, some (text.take (before.length - 1) ++ [0])), frame))
    (refused : (buffer = none ∨ buffer = some [] ∨ ∀ text, ¬ finds text) →
      program.run frame = ((0, buffer), frame))
    (detached : program.FailsDetached buffer) : program.Transcribes frame buffer finds := by
  have fits : ∀ text, finds text → ∀ count ≤ text.length + 1,
      (Int32.ofNat count).toInt = count ∧ (-Int32.ofNat count).toInt = -count :=
        fun text found count most =>
    toInt_count (most.trans (Nat.succ_le_succ (short text found)))
  have full : ∀ text before, buffer = some before → finds text → text.length < before.length →
      (program.run frame).1.1.toInt = text.length + 1 := by
    intro text before there found room
    rw [whole text before there found room]
    exact (fits text found _ le_rfl).1
  have negated : ∀ text before, buffer = some before → before ≠ [] → finds text →
      before.length ≤ text.length → (program.run frame).1.1.toInt = -before.length := by
    intro text before there filled found long
    rw [cut text before there filled found long]
    exact (fits text found _ (Nat.le_succ_of_le long)).2
  refine
    { whole := fun text before there found room =>
        ⟨full text before there found room, by rw [whole text before there found room]⟩
      cut := fun text before there filled found long =>
        ⟨negated text before there filled found long,
          by rw [cut text before there filled found long]⟩
      refused := fun out => congrArg Prod.fst (refused out)
      positive_iff := ?_
      within := ?_
      fits := fits
      unchanged := ?_
      detached := detached }
  · rw [Int32.lt_iff_toInt_lt, Int32.toInt_zero]
    constructor
    · intro positive
      rcases refused_or_found buffer finds with out | ⟨text, before, there, filled, found⟩
      · rw [refused out] at positive
        exact absurd positive (lt_irrefl 0)
      · refine ⟨text, before, there, found, Nat.lt_of_not_le fun long => ?_⟩
        rw [negated text before there filled found long] at positive
        omega
    · rintro ⟨text, before, there, found, room⟩
      rw [full text before there found room]
      omega
  · intro before there
    rcases refused_or_found buffer finds with out | ⟨text, before', there', filled, found⟩
    · rw [refused out]
      exact Nat.zero_le _
    · obtain rfl : before = before' := Option.some.inj (there.symm.trans there')
      by_cases room : text.length < before.length
      · rw [full text before there found room]
        exact room
      · rw [negated text before there filled found (Nat.le_of_not_lt room), Int.natAbs_neg]
        exact le_rfl
  · rcases refused_or_found buffer finds with out | ⟨text, before, there, filled, found⟩
    · rw [refused out]
    · by_cases room : text.length < before.length
      · rw [whole text before there found room]
      · rw [cut text before there filled found (Nat.le_of_not_lt room)]

namespace Request

variable {frame : Frame} {word : Word} {text before : Bytes}

/-- A text that fits is written with a zero byte after it, and the rest of the buffer stays. -/
theorem copyText_of_lt (room : text.length < before.length) :
    copyText text before =
      (Int32.ofNat (text.length + 1), text ++ 0 :: before.drop (text.length + 1)) := by
  rw [copyText, if_pos room, overwrite, List.length_append, List.append_assoc]
  rfl

/-- Any other text is cut off for a zero byte. -/
theorem copyText_of_le (long : before.length ≤ text.length) :
    copyText text before = (-Int32.ofNat before.length, text.take (before.length - 1) ++ [0]) :=
  if_neg (Nat.not_lt.mpr long)

/-- A charlist is copied into a buffer that is not empty. -/
theorem getStringInto_of_text (isText : string? frame.env word = some text) (filled : before ≠ []) :
    getStringInto frame word (some before) Interface.latin1 =
      ((copyText text before).1, some (copyText text before).2) := by
  simp only [getStringInto, ne_eq, filled, not_false_eq_true, and_self, if_true, isText]

/-- Without a charlist, another encoding or a buffer nothing is copied. -/
theorem getStringInto_of_refused {buffer : Option Bytes} {encoding : UInt32}
    (refused : buffer = none ∨ buffer = some [] ∨
      ∀ text, ¬ (encoding = Interface.latin1 ∧ string? frame.env word = some text)) :
    getStringInto frame word buffer encoding = (0, buffer) := by
  rcases refused with rfl | rfl | noText
  · rfl
  · simp [getStringInto]
  · by_cases same : encoding = Interface.latin1
    · have none : string? frame.env word = none :=
        Option.eq_none_iff_forall_ne_some.mpr fun text isText => noText text ⟨same, isText⟩
      exact Read.getStringInto_of_no_text none buffer encoding
    · cases buffer with
      | none => rfl
      | some before => simp [getStringInto, same]

end Request

/-- **Charlists are copied, cut off or refused exactly.** On a grounded heap the symbol answers so
for the words that are proper lists of bytes, if the encoding is the one that is understood, and
refuses all others. -/
theorem Frame.getString_exact {frame : Frame} (grounded : frame.env.Grounded) (word : Word)
    (buffer : Option Bytes) (encoding : UInt32) :
    (Symbol.getString word buffer encoding).Transcribes frame buffer fun text =>
      encoding = Interface.latin1 ∧ frame.env.IsCharlist word text := by
  have found : ∀ text, Request.string? frame.env word = some text ↔
      frame.env.IsCharlist word text :=
    fun text => grounded.string?_eq_some_iff
  refine Program.transcribes_of_endings ?_ ?_ ?_ ?_ fun host =>
    ⟨rfl, Symbol.silent_ite_note _ host _⟩
  · rintro text ⟨-, elements, list, bytes⟩
    rw [← bytes.length_eq]
    exact Read.short_of_list? (grounded.list?_eq_some_iff.mpr list)
  · rintro text before rfl ⟨rfl, isText⟩ room
    have filled : before ≠ [] := List.length_pos_iff.mp (Nat.zero_lt_of_lt room)
    rw [Symbol.run_getString, Request.getStringInto_of_text ((found text).mpr isText) filled,
      Request.copyText_of_lt room]
  · rintro text before rfl filled ⟨rfl, isText⟩ long
    rw [Symbol.run_getString, Request.getStringInto_of_text ((found text).mpr isText) filled,
      Request.copyText_of_le long]
  · intro refused
    simp only [← found] at refused
    rw [Symbol.run_getString, Request.getStringInto_of_refused refused]

/-- A text with a zero byte in it, given buffers of four bytes, of two and of one. -/
theorem Frame.getString_exact_zero :
    ∃ (frame : Frame) (word : Word), frame.env.Grounded ∧ frame.env.IsCharlist word [0xE9, 0] ∧
      ((Symbol.getString word (some [7, 7, 7, 7]) Interface.latin1).run frame).1.2 =
        some [0xE9, 0, 0, 7] ∧
      ((Symbol.getString word (some [7, 7]) Interface.latin1).run frame).1.1.toInt = -2 ∧
      ((Symbol.getString word (some [7, 7]) Interface.latin1).run frame).1.2 = some [0xE9, 0] ∧
      ((Symbol.getString word (some [7]) Interface.latin1).run frame).1.2 = some [0] ∧
      ((Symbol.getString word (some []) Interface.latin1).run frame).1 = (0, some []) := by
  obtain ⟨made, grounded, isText⟩ : ∃ made : Word × Frame, made.2.env.Grounded ∧
      Request.string? made.2.env made.1 = some [0xE9, 0] :=
    ⟨(⟨{ id := 1 }, {}⟩ : Frame).makeCharlist "\u00E9\x00",
      makeCharlist_grounded (Environment.grounded_of_empty rfl) _, by rfl⟩
  have isText := grounded.string?_eq_some_iff.mp isText
  have exact := fun buffer => Frame.getString_exact grounded made.1 buffer Interface.latin1
  refine ⟨made.2, made.1, grounded, isText, ?_, ?_, ?_, ?_, ?_⟩
  · exact ((exact _).whole [0xE9, 0] [7, 7, 7, 7] rfl ⟨rfl, isText⟩ (by decide)).2
  · exact ((exact _).cut [0xE9, 0] [7, 7] rfl (by decide) ⟨rfl, isText⟩ (by decide)).1
  · exact ((exact _).cut [0xE9, 0] [7, 7] rfl (by decide) ⟨rfl, isText⟩ (by decide)).2
  · exact ((exact _).cut [0xE9, 0] [7] rfl (by decide) ⟨rfl, isText⟩ (by decide)).2
  · exact (exact _).refused (.inr (.inl rfl))

end Nif
