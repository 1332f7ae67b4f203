import Nif.Proofs.Numbering
import Nif.Proofs.Parts
import Nif.Proofs.Permanence

/-!
**Environments are isolated from each other.**

* `Environment.Foreign`: a word is foreign to an environment when every inspection of it fails there
  and it means nothing, alone or inside other terms. `Environment.foreign_of_id_ne`: so are all
  references of other environments.
* `Session.step_elsewhere`, `Session.after_elsewhere`: operations leave every environment they do
  not name as it was.
* `Session.environments_isolated`: the two together, over any run that opens fewer than 2 ^ 32
  environments.
-/

namespace Nif

/-! ### References of other environments -/

/-- The word that a request inspects, and the reply of an inspection that fails: the status is zero
and what the pointer leads to is left as it was. -/
def Request.inspection? : (request : Request) → Option (Word × request.Reply)
  | getInt word out => some (word, 0, out)
  | getLong word out => some (word, 0, out)
  | getDouble word out => some (word, 0, out)
  | getAtomLength word out _ => some (word, 0, out)
  | getAtom word buffer _ => some (word, 0, buffer)
  | getString word buffer _ => some (word, 0, buffer)
  | getListLength word out => some (word, 0, out)
  | inspectBinary word bin => some (word, 0, bin)
  | makeBadarg | makeInt _ | makeLong _ | makeDouble _ | makeAtom _ | makeTuple .. | makeBinary _
  | allocBinary .. | releaseBinary _ | report _ => none

namespace Environment

/-- The word means nothing in the environment and shows nothing there. -/
structure Foreign (env : Environment) (word : Word) : Prop where
  int : env.int? word = none
  float : env.float? word = none
  tuple : env.tuple? word = none
  list : env.list? word = none
  binary : env.binary? word = none
  atom : ∀ atoms : AtomTable, atoms.atom? word = none
  /-- Every symbol that inspects it fails, and changes nothing. -/
  symbols : ∀ (request : Request) (reply : request.Reply),
    request.inspection? = some (word, reply) →
    ∀ host, request.perform { env, host } = (reply, { env, host })
  /-- It decodes as itself. -/
  meaning : ∀ atoms, env.decode? atoms word = some (.invalid word)
  /-- Wherever it stands inside another term, this part of the term's meaning is the word itself. -/
  inside : ∀ atoms whole value path, env.decode? atoms whole = some value →
    env.part? path whole = some word → value.part? path = some (.invalid word)

/-- A symbol that inspects a word fails where nothing of its kind is found. -/
theorem inspection_fails {env : Environment} {host : Host} {word : Word} {request : Request}
    {reply : request.Reply} (int : env.int? word = none) (float : env.float? word = none)
    (atom : host.atoms.atom? word = none) (list : env.list? word = none)
    (string : Request.string? env word = none) (binary : env.binary? word = none)
    (inspects : request.inspection? = some (word, reply)) :
    request.perform { env, host } = (reply, { env, host }) := by
  have unnamed : Frame.atom? { env, host } word = none := atom
  cases request with
  | getInt _ out =>
    cases inspects
    simp [Request.perform, int, Request.store]
  | getLong _ out =>
    cases inspects
    simp [Request.perform, int, Request.store]
  | getDouble _ out =>
    cases inspects
    simp [Request.perform, float, Request.store]
  | getAtomLength _ out encoding =>
    cases inspects
    simp [Request.perform, unnamed, Request.store]
  | getAtom _ buffer encoding =>
    cases inspects
    cases buffer <;> simp [Request.perform, Request.getAtomInto, unnamed]
  | getString _ buffer encoding =>
    cases inspects
    cases buffer <;> simp [Request.perform, Request.getStringInto, string]
  | getListLength _ out =>
    cases inspects
    simp [Request.perform, list, Request.store]
  | inspectBinary _ bin =>
    cases inspects
    simp [Request.perform, binary, Request.store]
  | _ => cases inspects

/-- **A reference of another environment is foreign.** -/
theorem foreign_of_id_ne {env : Environment} {word : Word} {number : UInt32} {slot : Nat}
    (reference : word.boxed? = some (number, slot)) (other : number ≠ env.id) :
    env.Foreign word := by
  have missing : env.cell? word = none := by rw [cell?, reference]; exact if_neg other
  have tag : word.isSmall = false := Word.isSmall_of_boxed? reference
  have unnamed : ∀ atoms : AtomTable, atoms.atom? word = none := by
    intro atoms
    rw [AtomTable.atom?, Word.atomIndex?_of_boxed? reference, Option.bind_none]
  have filled : word ≠ Word.nil := Word.ne_nil_of_boxed? reference
  have broken : env.spine word = .improper :=
    spineWithin_other filled (fun head tail stored => by rw [missing] at stored; cases stored) _
  obtain ⟨noList, noString⟩ := list?_of_improper broken
  have noInt : env.int? word = none := by simp [int?, tag, missing]
  have noFloat : env.float? word = none := by rw [float?, missing]
  have noBinary : env.binary? word = none := by rw [binary?, missing]
  refine ⟨noInt, noFloat, ?_, noList, noBinary, unnamed, ?_, ?_, ?_⟩
  · rw [tuple?, missing]
  · intro request reply inspects host
    exact inspection_fails noInt noFloat (unnamed _) noList noString noBinary inspects
  · exact fun atoms => decodeWithin_nothing tag (unnamed atoms) missing filled _
  · intro atoms whole value path decoded reached
    obtain ⟨meaning, level, found, final⟩ := decodeWithin_part? decoded reached
    rw [decodeWithin_nothing tag (unnamed atoms) missing filled] at final
    rw [found, ← final]

end Environment

/-! ### Operations elsewhere -/

/-- The environment that an operation works on, of those that the session has. -/
def Operation.env? : Operation → Option Nat
  | .build env _ | .raise env | .clearException env | .call _ env _ _ => some env
  | .run env _ => env
  | .openEnvironment | .load _ | .drop _ => none

namespace Session

theorem inEnvironment_elsewhere {α : Type} {session : Session} {env place : Nat}
    (elsewhere : env ≠ place) (operation : Frame → α × Frame) :
    (session.settled (session.inEnvironment env operation)).envs[place]? =
      session.envs[place]? := by
  unfold inEnvironment
  cases session.frame? env with
  | none => rfl
  | some frame => exact Array.getElem?_setIfInBounds_ne elsewhere

/-- **An operation leaves every environment that it does not name as it was**: its heap and its
pending exception. -/
theorem step_elsewhere {session : Session} {operation : Operation} {place : Nat} {env : Environment}
    (elsewhere : operation.env? ≠ some place) (opened : session.envs[place]? = some env) :
    (session.step operation).envs[place]? = some env := by
  rw [← opened]
  have apart : ∀ {named : Nat}, operation.env? = some named → named ≠ place := by
    rintro named names rfl
    exact elsewhere names
  cases operation with
  | openEnvironment =>
    have inside := (Array.getElem?_eq_some_iff.mp opened).1
    show (session.envs.push _)[place]? = _
    rw [Array.getElem?_push_lt inside, ← Array.getElem?_eq_getElem inside]
  | build named draft => exact inEnvironment_elsewhere (apart rfl) _
  | raise named => exact inEnvironment_elsewhere (apart rfl) _
  | clearException named => exact inEnvironment_elsewhere (apart rfl) _
  | run named program =>
    cases named with
    | none => rfl
    | some named => exact inEnvironment_elsewhere (apart rfl) _
  | load entry =>
    show (session.load entry).2.envs[place]? = _
    rw [(session.load_host entry).2]
  | call handle named name args =>
    simp only [step, call]
    cases session.module? handle with
    | none => rfl
    | some module => exact inEnvironment_elsewhere (apart rfl) _
  | drop handle =>
    simp only [step, drop]
    cases session.module? handle with
    | none => rfl
    | some module => rfl

/-- So does any run of such operations. -/
theorem after_elsewhere {session : Session} {operations : List Operation} {place : Nat}
    {env : Environment} (elsewhere : ∀ operation ∈ operations, operation.env? ≠ some place)
    (opened : session.envs[place]? = some env) :
    (session.after operations).envs[place]? = some env := by
  induction operations generalizing session with
  | nil => exact opened
  | cons operation rest ih =>
    have next := step_elsewhere (elsewhere operation List.mem_cons_self) opened
    exact ih (fun later member => elsewhere later (List.mem_cons_of_mem _ member)) next

/-- The meaning of a word stays as well, if it reaches no atom that was not in the table. -/
theorem decode?_elsewhere {session : Session} {operations : List Operation} {place : Nat}
    {env : Environment} {word : Word}
    (elsewhere : ∀ operation ∈ operations, operation.env? ≠ some place)
    (opened : session.envs[place]? = some env)
    (known : env.AtomsWithin session.host.atoms.size word) :
    (session.after operations).decode? place word = session.decode? place word := by
  have stays := after_elsewhere elsewhere opened
  have names := (session.after_grows operations).names
  simp only [decode?, frame?, opened, stays, Option.map_some, Option.bind_some]
  exact Environment.decode?_congr known names

/-- **Environments are isolated.** In a run that opens fewer than 2 ^ 32 environments, all of them
have different numbers, those of callbacks included, and in each of them, whatever it holds, every
reference of another is foreign. Whatever is done elsewhere leaves an environment's heap, its
exception, and the meaning of every word that reaches no atom which was not in the table before. -/
theorem environments_isolated {operations : List Operation}
    (few : (fresh.after operations).numbers.length < 0x100000000) :
    (fresh.after operations).numbers.Nodup ∧
      (∀ (place : Nat) (env : Environment), (fresh.after operations).envs[place]? = some env →
        (fresh.after operations).numbers[place]? = some env.id) ∧
      (∀ (place other : Nat) (env : Environment) (number : UInt32) (slot : Nat),
        (fresh.after operations).numbers[place]? = some env.id →
        (fresh.after operations).numbers[other]? = some number → other ≠ place →
        slot < Interface.slotLimit → env.Foreign (Word.boxed number slot)) ∧
      ∀ (later : List Operation) (place : Nat) (env : Environment),
        (∀ operation ∈ later, operation.env? ≠ some place) →
        (fresh.after operations).envs[place]? = some env →
        ((fresh.after operations).after later).envs[place]? = some env ∧
          ∀ word, env.AtomsWithin (fresh.after operations).host.atoms.size word →
            ((fresh.after operations).after later).decode? place word =
              (fresh.after operations).decode? place word := by
  have nodup := (after_numbered operations).nodup few
  refine ⟨nodup, fun place env => numbers_of_envs, ?_, ?_⟩
  · intro place other env number slot own others apart inside
    refine Environment.foreign_of_id_ne (Word.boxed?_boxed number inside) fun same => apart ?_
    exact (List.getElem?_inj (List.getElem?_eq_some_iff.mp others).1 nodup).mp
      (by rw [others, own, same])
  · intro later place env elsewhere opened
    exact ⟨after_elsewhere elsewhere opened, fun word => decode?_elsewhere elsewhere opened⟩

/-! ### Two environments -/

/-- In the first environment a float is made, in the second a pair of this float's reference and an
atom. -/
def strayRun : List Operation :=
  [.openEnvironment, .openEnvironment, .build 0 (.float 1.5),
    .build 1 (.tuple [.existing (Word.boxed 1 0), .atom [0x6F, 0x6B]])]

/-- The second environment after that. -/
def strayHolder : Environment where
  id := 2
  heap := #[.tuple [Word.boxed 1 0, Word.ofAtomIndex 0]]
  size_le := by decide

/-- The pair reaches one atom, the first of the table. -/
theorem strayHolder_atoms : strayHolder.AtomsWithin 1 (Word.boxed 2 0) := by
  intro path part index reached tag
  have pair : strayHolder.parts (Word.boxed 2 0) = [Word.boxed 1 0, Word.ofAtomIndex 0] := rfl
  have stray : strayHolder.parts (Word.boxed 1 0) = [] := rfl
  have leaf : strayHolder.parts (Word.ofAtomIndex 0) = [] := rfl
  have pairTag : (Word.boxed 2 0).atomIndex? = none :=
    Word.atomIndex?_of_boxed? (Word.boxed?_boxed 2 (by decide))
  have strayTag : (Word.boxed 1 0).atomIndex? = none :=
    Word.atomIndex?_of_boxed? (Word.boxed?_boxed 1 (by decide))
  have atom : (Word.ofAtomIndex 0).atomIndex? = some 0 := Word.atomIndex?_ofAtomIndex (by decide)
  match path with
  | [] =>
    obtain rfl : Word.boxed 2 0 = part := by simpa [Environment.part?] using reached
    rw [pairTag] at tag
    cases tag
  | [0] =>
    obtain rfl : Word.boxed 1 0 = part := by simpa [Environment.part?, pair] using reached
    rw [strayTag] at tag
    cases tag
  | [1] =>
    obtain rfl : Word.ofAtomIndex 0 = part := by simpa [Environment.part?, pair] using reached
    rw [atom] at tag
    cases tag
    exact Nat.zero_lt_one
  | 0 :: _ :: _ => simp [Environment.part?, pair, stray] at reached
  | 1 :: _ :: _ => simp [Environment.part?, pair, leaf] at reached
  | (_ + 2) :: _ => simp [Environment.part?, pair] at reached

/-- The stray reference means nothing where it lies, and the pair around it keeps its meaning while
the first environment raises an exception and a third one is opened. -/
theorem environments_isolated_stray :
    (fresh.after strayRun).numbers = [1, 2] ∧ (fresh.after strayRun).numbers.length < 0x100000000 ∧
      (fresh.after strayRun).envs[1]? = some strayHolder ∧ strayHolder.Foreign (Word.boxed 1 0) ∧
      (fresh.after strayRun).decode? 1 (Word.boxed 2 0) =
        some (.tuple [.invalid (Word.boxed 1 0), .atom "ok"]) ∧
      ((fresh.after strayRun).after [.raise 0, .openEnvironment]).envs[1]? = some strayHolder ∧
      ((fresh.after strayRun).after [.raise 0, .openEnvironment]).decode? 1 (Word.boxed 2 0) =
        (fresh.after strayRun).decode? 1 (Word.boxed 2 0) := by
  have few : (fresh.after strayRun).numbers.length < 0x100000000 := by decide
  have opened : (fresh.after strayRun).envs[1]? = some strayHolder := rfl
  obtain ⟨-, -, foreign, stays⟩ := environments_isolated few
  obtain ⟨same, meaning⟩ :=
    stays [.raise 0, .openEnvironment] 1 strayHolder (by simp [Operation.env?]) opened
  exact ⟨rfl, few, opened, foreign 1 0 strayHolder 1 0 rfl rfl (by decide) (by decide), rfl, same,
    meaning _ strayHolder_atoms⟩

end Session

end Nif
