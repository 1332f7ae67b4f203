import Mathlib.Data.List.Nodup
import Nif.Proofs.Grounding
import Nif.Proofs.Inspection
import Nif.Proofs.Untouched

/-!
**On a grounded heap every traversal ends.**

* `Environment.rank`: how many slots a word can lead to; the words in an object have a smaller rank
  than a reference to the object (`Grounded.rank_lt`).
* `Environment.Visits`: the slots of the list cells that are met when the tails from a word are
  followed. `Visits.descends`: each of them lies below the one before.
* `Grounded.decodeWithin_isSome`: unfolding a word to a depth beyond its rank gives its meaning.
* `Program.Ends`: a program in which no symbol follows the tails of a list without an end.
* `Session.traversals_end`: all this in every environment that a run reaches.
-/

namespace Nif

namespace Environment

variable {env : Environment} {atoms : AtomTable} {word : Word}

/-! ### The rank of a word -/

/-- The number of slots that the word can lead to: a reference leads to its own slot and to earlier
ones. -/
def rank (env : Environment) (word : Word) : Nat :=
  match word.boxed? with
  | some (id, slot) => if id = env.id ∧ slot < env.heap.size then slot + 1 else 0
  | none => 0

theorem rank_le (env : Environment) (word : Word) : env.rank word ≤ env.heap.size := by
  unfold rank
  split
  · split
    · rename_i inside
      exact inside.2
    · exact Nat.zero_le _
  · exact Nat.zero_le _

theorem rank_of_stored {slot : Nat} {cell : Cell} (reference : word.boxed? = some (env.id, slot))
    (stored : env.heap[slot]? = some cell) : env.rank word = slot + 1 := by
  rw [rank, reference]
  exact if_pos ⟨rfl, (Array.getElem?_eq_some_iff.mp stored).1⟩

/-- **The words in an object have a smaller rank than a reference to it.** -/
theorem Grounded.rank_lt (grounded : env.Grounded) {cell : Cell}
    (stored : env.cell? word = some cell) :
    ∀ part ∈ cell.words, env.rank part < env.rank word := by
  intro part member
  obtain ⟨slot, reference, there⟩ := cell?_eq_some_iff.mp stored
  rw [rank_of_stored reference there, rank]
  split
  · rename_i id place partReference
    split
    · rename_i inside
      obtain ⟨rfl, -⟩ := inside
      exact Nat.succ_lt_succ (grounded slot cell there part member place partReference)
    · exact Nat.succ_pos slot
  · exact Nat.succ_pos slot

/-! ### Following the tails of a list -/

/-- Following the tails from the word meets the list cells in these slots, one after the other, and
then a word behind which there is no list cell. -/
inductive Visits (env : Environment) : Word → List Nat → Prop
  | stop {word : Word} (other : ∀ head tail, env.cell? word ≠ some (.cons head tail)) :
      Visits env word []
  | step {word head tail : Word} {slot : Nat} {slots : List Nat}
      (reference : word.boxed? = some (env.id, slot))
      (stored : env.heap[slot]? = some (.cons head tail))
      (rest : Visits env tail slots) : Visits env word (slot :: slots)

/-- On a grounded heap the tails come to an end. -/
theorem Grounded.exists_visits (grounded : env.Grounded) (word : Word) :
    ∃ slots, env.Visits word slots := by
  induction rank : env.rank word using Nat.strong_induction_on generalizing word with
  | _ bound ih =>
    by_cases cons : ∃ head tail, env.cell? word = some (.cons head tail)
    · obtain ⟨head, tail, stored⟩ := cons
      have lower :=
        grounded.rank_lt stored tail (List.mem_cons_of_mem _ (List.mem_singleton_self tail))
      obtain ⟨slots, rest⟩ := ih _ (rank ▸ lower) tail rfl
      obtain ⟨slot, reference, there⟩ := cell?_eq_some_iff.mp stored
      exact ⟨slot :: slots, .step reference there rest⟩
    · exact ⟨[], .stop fun head tail stored => cons ⟨head, tail, stored⟩⟩

namespace Visits

variable {slots : List Nat}

/-- **Each list cell lies below the one before**, and all lie below the rank of the word. -/
theorem descends (visits : env.Visits word slots) (grounded : env.Grounded) :
    (∀ slot ∈ slots, slot < env.rank word) ∧ slots.Pairwise (· > ·) := by
  induction visits with
  | stop other => exact ⟨List.forall_mem_nil _, .nil⟩
  | @step word head tail slot slots reference stored _ ih =>
    obtain ⟨below, descending⟩ := ih
    have own := rank_of_stored reference stored
    have lower : env.rank tail < env.rank word :=
      grounded.rank_lt (cell?_eq_some_iff.mpr ⟨slot, reference, stored⟩) tail
        (List.mem_cons_of_mem _ (List.mem_singleton_self tail))
    refine ⟨List.forall_mem_cons.mpr ⟨by omega, fun later member => ?_⟩,
      .cons (fun later member => ?_) descending⟩
    · exact (below later member).trans lower
    · have := below later member
      omega

theorem nodup (visits : env.Visits word slots) (grounded : env.Grounded) : slots.Nodup :=
  (visits.descends grounded).2.imp fun descending => Nat.ne_of_gt descending

/-- Distinct slots are no more than the heap has. -/
theorem length_le (visits : env.Visits word slots) (grounded : env.Grounded) :
    slots.length ≤ env.heap.size := by
  have inside : slots ⊆ List.range env.heap.size := fun slot member =>
    List.mem_range.mpr (((visits.descends grounded).1 slot member).trans_le (env.rank_le word))
  have fewer := ((visits.nodup grounded).subperm inside).length_le
  rwa [List.length_range] at fewer

/-- With a bound beyond the number of cells the end is found, and a list has one element for each
cell. -/
theorem spineWithin (visits : env.Visits word slots) {bound : Nat} (enough : slots.length < bound) :
    env.spineWithin bound word ≠ .endless ∧
      ∀ elements, env.spineWithin bound word = .proper elements →
        elements.length = slots.length := by
  induction visits generalizing bound with
  | @stop word other =>
    obtain ⟨bound, rfl⟩ : ∃ rest, bound = rest + 1 := ⟨bound - 1, by omega⟩
    by_cases empty : word = Word.nil
    · subst empty
      rw [spineWithin_nil]
      exact ⟨by simp, fun elements ends => by cases ends; rfl⟩
    · rw [spineWithin_other empty other]
      exact ⟨by simp, fun elements ends => by cases ends⟩
  | @step word head tail slot slots reference stored _ ih =>
    obtain ⟨bound, rfl⟩ : ∃ rest, bound = rest + 1 := ⟨bound - 1, by omega⟩
    obtain ⟨ends, length⟩ := ih (Nat.lt_of_succ_lt_succ enough)
    rw [spineWithin_cons (cell?_eq_some_iff.mpr ⟨slot, reference, stored⟩)]
    constructor
    · cases found : env.spineWithin bound tail with
      | endless => exact absurd found ends
      | proper _ | improper => simp [Spine.cons]
    · intro elements proper
      obtain ⟨rest, tailEnds, rfl⟩ := Spine.cons_eq_proper_iff.mp proper
      exact congrArg (· + 1) (length rest tailEnds)

end Visits

/-- **On a grounded heap every list has an end.** -/
theorem Grounded.spine_ne_endless (grounded : env.Grounded) (word : Word) :
    env.spine word ≠ .endless := by
  obtain ⟨slots, visits⟩ := grounded.exists_visits word
  exact (visits.spineWithin (Nat.lt_succ_of_le (visits.length_le grounded))).1

/-! ### Unfolding a word -/

/-- The elements of a list that starts with a cell have a smaller rank than the word. -/
theorem Grounded.rank_lt_of_spineWithin (grounded : env.Grounded) {bound : Nat}
    {elements : List Word} (ends : env.spineWithin bound word = .proper elements) :
    ∀ part ∈ elements, env.rank part < env.rank word := by
  induction bound generalizing word elements with
  | zero => cases ends
  | succ bound ih =>
    by_cases cons : ∃ head tail, env.cell? word = some (.cons head tail)
    · obtain ⟨head, tail, stored⟩ := cons
      obtain ⟨headLower, tailLower⟩ : env.rank head < env.rank word ∧
          env.rank tail < env.rank word := by
        simpa [Cell.words] using grounded.rank_lt stored
      rw [spineWithin_cons stored] at ends
      obtain ⟨rest, tailEnds, rfl⟩ := Spine.cons_eq_proper_iff.mp ends
      exact List.forall_mem_cons.mpr
        ⟨headLower, fun part member => (ih tailEnds part member).trans tailLower⟩
    · have other : ∀ head tail, env.cell? word ≠ some (.cons head tail) :=
        fun head tail stored => cons ⟨head, tail, stored⟩
      by_cases empty : word = Word.nil
      · subst empty
        rw [spineWithin_nil] at ends
        cases ends
        exact List.forall_mem_nil _
      · rw [spineWithin_other empty other] at ends
        cases ends

/-- Reading each element of a list gives a reading of the list. -/
theorem mapM_isSome {α β : Type} {read : α → Option β} {items : List α}
    (each : ∀ item ∈ items, (read item).isSome) : (items.mapM read).isSome := by
  induction items with
  | nil => rfl
  | cons item rest ih =>
    obtain ⟨first, others⟩ := List.forall_mem_cons.mp each
    obtain ⟨result, head⟩ := Option.isSome_iff_exists.mp first
    obtain ⟨results, tail⟩ := Option.isSome_iff_exists.mp (ih others)
    rw [List.mapM_cons, head, tail]
    rfl

/-- **On a grounded heap every word has a meaning**, found at any depth beyond its rank. -/
theorem Grounded.decodeWithin_isSome (grounded : env.Grounded) (atoms : AtomTable) {depth : Nat}
    (deep : env.rank word < depth) : (env.decodeWithin atoms depth word).isSome := by
  induction depth generalizing word with
  | zero => exact absurd deep (Nat.not_lt_zero _)
  | succ depth ih =>
    have parts : ∀ {elements : List Word}, (∀ part ∈ elements, env.rank part < env.rank word) →
        (elements.mapM (env.decodeWithin atoms depth)).isSome := fun lower =>
      mapM_isSome fun part member => ih ((lower part member).trans_le (Nat.le_of_lt_succ deep))
    cases env.kind atoms word with
    | small tag => rw [decodeWithin_of_isSmall tag]; rfl
    | atom name named => rw [decodeWithin_of_atom? named]; rfl
    | empty nil => rw [nil, decodeWithin_nil]; rfl
    | nothing tag unnamed missing filled =>
      rw [decodeWithin_nothing tag unnamed missing filled]; rfl
    | object cell stored =>
      rw [decodeWithin_of_cell? stored]
      cases cell with
      | integer _ | float _ | binary _ => rfl
      | tuple elements => exact Option.isSome_map.trans (parts (grounded.rank_lt stored))
      | cons head tail =>
        cases ends : env.spine word with
        | endless => exact absurd ends (grounded.spine_ne_endless word)
        | improper => rfl
        | proper elements =>
          exact Option.isSome_map.trans (parts (grounded.rank_lt_of_spineWithin ends))

end Environment

/-! ### Programs that follow lists -/

/-- The word whose tails the symbol follows to their end. -/
def Request.followed? : Request → Option Word
  | getString word _ _ | getListLength word _ => some word
  | _ => none

namespace Program

variable {α β : Type} {frame : Frame}

/-- Wherever the program has the tails of a list followed, they end. -/
def Ends (program : Program α) (frame : Frame) : Prop :=
  ∀ made ∈ program.calls frame, ∀ word ∈ made.1.followed?, made.2.env.spine word ≠ .endless

theorem Ends.bind {program : Program α} {next : α → Program β} (first : program.Ends frame)
    (rest : (next (program.run frame).1).Ends (program.run frame).2) :
    (program >>= next).Ends frame := by
  unfold Ends
  rw [calls_bind]
  exact List.forall_mem_append.mpr ⟨first, rest⟩

/-- A program that only reads follows lists in the frame that it began with. -/
theorem ends_of_reads {program : Program α} (reads : program.Reads)
    (grounded : frame.env.Grounded) :
    program.Ends frame := by
  intro made member word _
  rw [calls_of_reads reads made member]
  exact grounded.spine_ne_endless word

/-- A program without symbols that follow lists. -/
theorem ends_of_every {program : Program α} (every : program.Every (·.followed? = none))
    (frame : Frame) :
    program.Ends frame := by
  intro made member word followed
  rw [every.calls frame made member] at followed
  cases followed

end Program

namespace Make

/-- The atoms and tuples that are made follow no lists. -/
theorem orRaise_follows_nothing {attempt : Attempt Word}
    (every : attempt.Every (·.followed? = none)) :
    (orRaise attempt).Every (·.followed? = none) := by
  refine .bind every fun ending => ?_
  cases ending with
  | ok word => exact .pure word
  | error fault => exact .bind (.ofRequest rfl) fun _ => .ofRequest rfl

theorem atom_follows_nothing (name : String) : (atom name).Every (·.followed? = none) := by
  refine orRaise_follows_nothing ?_
  unfold tryAtom
  split
  · exact .lift (.ofRequest rfl)
  · exact .throw _

theorem tuple_follows_nothing (elements : List Word) :
    (tuple elements).Every (·.followed? = none) := by
  refine orRaise_follows_nothing ?_
  unfold tryTuple
  split
  · exact .lift (.ofRequest rfl)
  · exact .throw _

end Make

/-- **Telling the kind of a word ends**, and so does making its description. -/
theorem Example.describe_ends {frame : Frame} (grounded : frame.env.Grounded) (word : Word) :
    (describe [word]).Ends frame := by
  refine .bind (Program.ends_of_reads (Kind.probe_reads word) grounded) (Program.ends_of_every ?_ _)
  exact .bind (Make.atom_follows_nothing _) fun kind =>
    .bind (.bind (Make.atom_follows_nothing "ok") fun ok => Make.tuple_follows_nothing _) fun _ =>
      .pure _

/-! ### Runs -/

namespace Session

/-- **Heaps are well-founded, so traversals end.** In every environment that a run reaches, if the
constructors that work in it are given no word that is not allocated, references lead to earlier
slots. Hence from any word the tails of a list meet distinct cells and come to an end, every word
has a meaning, and every program that reads a word or describes it ends. -/
theorem traversals_end {operations : List Operation} {env : Environment}
    (reached : fresh.Reaches operations env)
    (valid : ∀ scene ∈ fresh.runScenes operations, scene.frame.env.id = env.id → scene.Valid) :
    env.Grounded ∧ ∀ word : Word,
      (∃ slots, env.Visits word slots ∧ slots.Nodup ∧ ∀ elements, env.list? word = some elements →
        elements.length = slots.length ∧ elements.length ≤ env.heap.size) ∧
      env.spine word ≠ .endless ∧
      ∀ host : Host, ((⟨env, host⟩ : Frame).decode? word).isSome ∧
        (∀ request : Request, (Program.ofRequest request).Ends ⟨env, host⟩) ∧
        Program.Ends (Read.charlist word).run ⟨env, host⟩ ∧
        (∀ param : Param, Program.Ends (param.decode word).run ⟨env, host⟩) ∧
        (Example.describe [word]).Ends ⟨env, host⟩ := by
  have grounded := grounded_of_reaches reached valid
  refine ⟨grounded, fun word => ⟨?_, grounded.spine_ne_endless word, fun host => ?_⟩⟩
  · obtain ⟨slots, visits⟩ := grounded.exists_visits word
    have few := visits.length_le grounded
    refine ⟨slots, visits, visits.nodup grounded, fun elements found => ?_⟩
    have proper := Environment.list?_eq_some_iff.mp found
    have length := (visits.spineWithin (Nat.lt_succ_of_le few)).2 elements proper
    exact ⟨length, length.le.trans few⟩
  · refine ⟨grounded.decodeWithin_isSome _ (Nat.lt_succ_of_le (env.rank_le word)),
      fun request => ?_, Program.ends_of_reads (Read.charlist_reads word) grounded,
      fun param => Program.ends_of_reads (param.decode_reads word) grounded,
      Example.describe_ends grounded word⟩
    intro made member followed _
    obtain rfl := List.mem_singleton.mp member
    exact grounded.spine_ne_endless followed

/-- An improper list is built whose second element is the first one's own integer, and whose tail is
a reference of another environment; then native code pairs the integer with the list, and this pair
with itself. -/
def sharingRun : List Operation :=
  [.openEnvironment,
    .build 0 (.improper [.list [.int Int64.maxValue, .charlist "é"], .existing (Word.boxed 1 0)]
      (.existing (Word.boxed 7 3))),
    .run (some 0) do
      let pair ← Symbol.makeTuple (some [Word.boxed 1 0, Word.boxed 1 5]) 2
      let _ ← Symbol.makeTuple (some [pair, pair]) 2
      return ()]

/-- All that is passed there is allocated, so nothing on this heap of eight objects can be followed
for ever. -/
theorem traversals_end_sharing :
    (∀ scene ∈ fresh.runScenes sharingRun, scene.Valid) ∧
      ∃ env : Environment, fresh.Reaches sharingRun env ∧ env.heap.size = 8 ∧ env.Grounded ∧
        ∀ word : Word, env.spine word ≠ .endless ∧
          ∀ host : Host, (Example.describe [word]).Ends ⟨env, host⟩ := by
  have valid : ∀ scene ∈ fresh.runScenes sharingRun, scene.Valid := by decide
  obtain ⟨env, left, size⟩ :
      ∃ env, (fresh.after sharingRun).envs[0]? = some env ∧ env.heap.size = 8 := ⟨_, rfl, rfl⟩
  have reached : fresh.Reaches sharingRun env := Or.inl ⟨0, left⟩
  obtain ⟨grounded, ends⟩ := traversals_end reached fun scene member _ => valid scene member
  refine ⟨valid, env, reached, size, grounded, fun word => ?_⟩
  obtain ⟨-, spine, reads⟩ := ends word
  exact ⟨spine, fun host => (reads host).2.2.2.2⟩

end Session

end Nif
