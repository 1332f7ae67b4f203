import Mathlib.Data.Int.ModEq
import Mathlib.Data.Nat.Fib.Basic
import Nif.Proofs.Describing
import Nif.Proofs.Gates
import Nif.Proofs.RoundTrip

/-!
**Calls of the example library compute what its functions are named for.**

* `Example.Climbs`: a run of the loop over the Fibonacci sequence of which every sum is exact.
* `Example.climbs_fibonacciFrom`: up to the place 92 there is such a run, and it ends at the number
  of the place.
* `Example.Formula`: four functions of the library; `Formula.Takes`: the arguments that each of them
  is for; `Formula.Computes`: what it computes from them.
* `Formula.image?_of_takes`, `Formula.image?_of_not_takes`: so does its handler, and it refuses all
  others.
* `Loaded.library_computes`: so does a call of it.
-/

namespace Nif

open Nif.Module (Loaded)

namespace Example

/-! ### Fibonacci numbers -/

/-- Up to the place 92 they have 64 bits, with a sign. -/
theorem fib_lt {place : Nat} (low : place ≤ 92) : Nat.fib place < 2 ^ 63 :=
  (Nat.fib_mono low).trans_lt (by decide +kernel)

/-- So many steps up the sequence from two neighbours, and the number they end at. No rule lets a
sum leave 64 bits. -/
inductive Climbs : Int64 → Int64 → Nat → Int64 → Prop
  | there {previous current : Int64} : Climbs previous current 0 current
  | up {previous current number : Int64} {steps : Nat}
      (exact : (previous + current).toInt = previous.toInt + current.toInt)
      (rest : Climbs current (previous + current) steps number) :
      Climbs previous current (steps + 1) number

/-- **The loop climbs the sequence without leaving 64 bits**, and ends at the number of the place it
was sent to. -/
theorem climbs_fibonacciFrom {place steps : Nat} {previous current : Int64}
    (low : previous.toInt = Nat.fib place)
    (high : current.toInt = Nat.fib (place + 1)) (top : place + 1 + steps ≤ 92) :
    Climbs previous current steps (fibonacciFrom previous current steps) ∧
      (fibonacciFrom previous current steps).toInt = Nat.fib (place + 1 + steps) := by
  induction steps generalizing place previous current with
  | zero => exact ⟨.there, high⟩
  | succ steps ih =>
    have sum : Nat.fib place + Nat.fib (place + 1) = Nat.fib (place + 2) := Nat.fib_add_two.symm
    have small : Nat.fib (place + 2) < 2 ^ 63 := fib_lt (by omega)
    have exact : (previous + current).toInt = previous.toInt + current.toInt := by
      rw [Int64.toInt_add, low, high]
      exact Int.bmod_eq_of_le (by omega) (by omega)
    have next : (previous + current).toInt = Nat.fib (place + 1 + 1) := by
      rw [exact, low, high]
      exact_mod_cast sum
    obtain ⟨climbs, ends⟩ := ih high next (by omega)
    refine ⟨.up exact climbs, ?_⟩
    rw [fibonacciFrom, ends]
    congr 2
    omega

section Fibonacci

variable {n : Int64}

/-- The two tests, as conditions on the number. -/
theorem fibonacci_eq (n : Int64) : fibonacci n =
    if n.toInt ≤ 1 then .ok n
    else if 92 < n.toInt then .error .badArg
    else .ok (fibonacciFrom 0 1 (n.toInt.toNat - 1)) := by
  have early : n ≤ 1 ↔ n.toInt ≤ 1 := Int64.le_iff_toInt_le
  have beyond : maxFibonacci < n ↔ 92 < n.toInt := Int64.lt_iff_toInt_lt
  simp only [fibonacci, early, beyond]

theorem fibonacci_of_early (early : n.toInt ≤ 1) : fibonacci n = .ok n := by
  rw [fibonacci_eq, if_pos early]

theorem fibonacci_of_later (later : 2 ≤ n.toInt) (last : n.toInt ≤ 92) :
    ∃ number, fibonacci n = .ok number ∧ Climbs 0 1 (n.toInt.toNat - 1) number ∧
      number.toInt = Nat.fib n.toInt.toNat := by
  have top : 0 + 1 + (n.toInt.toNat - 1) = n.toInt.toNat := by omega
  have first : (1 : Int64).toInt = Nat.fib (0 + 1) := rfl
  obtain ⟨climbs, ends⟩ : Climbs 0 1 _ _ ∧ _ :=
    climbs_fibonacciFrom rfl first (top.trans_le (by omega))
  rw [top] at ends
  exact ⟨_, by rw [fibonacci_eq, if_neg (by omega), if_neg (by omega)], climbs, ends⟩

theorem fibonacci_of_beyond (beyond : 92 < n.toInt) : fibonacci n = .error .badArg := by
  rw [fibonacci_eq, if_neg (by omega), if_pos beyond]

end Fibonacci

/-! ### The functions, and what they compute -/

/-- The functions of the library that compute with integers and texts. -/
inductive Formula where
  | add
  | multiply
  | fibonacci
  | greet

namespace Formula

/-- The name that the function is called by. -/
def name : Formula → String
  | add => "add"
  | multiply => "multiply"
  | fibonacci => "fibonacci"
  | greet => "greet"

def handler : Formula → Handler
  | add => addHandler
  | multiply => multiplyHandler
  | fibonacci => fibonacciHandler
  | greet => greetHandler

/-- The library registers each of them. -/
theorem mem_builder (formula : Formula) :
    typed formula.name formula.handler ∈ builder.functions := by
  cases formula <;> simp [builder, name, handler]

/-- The bytes of the greeting to a name. -/
def greeting (name : String) : Bytes :=
  utf8Bytes "Hello, " ++ utf8Bytes name ++ utf8Bytes " from Rust!"

/-- The meanings of arguments that the function is for: two integers of 32 bits, a place up to 92,
or a text as a binary or as a list of its code points. There is no greeting for a binary that leaves
no memory for it. -/
def Takes : Formula → List Value → Prop
  | add, values | multiply, values => ∃ x y : Int32, values = [.int x.toInt64, .int y.toInt64]
  | fibonacci, values => ∃ n : Int64, n.toInt ≤ 92 ∧ values = [.int n]
  | greet, values => ∃ value name, values = [value] ∧ Param.text.Denotes value name ∧
      ∀ bytes, value = .binary bytes → bytes.length + 18 < Interface.allocationLimit

/-- The function computes this value from arguments with these meanings. -/
inductive Computes : Formula → List Value → Value → Prop
  | sum {x y z : Int32} (wraps : z.toInt ≡ x.toInt + y.toInt [ZMOD 2 ^ 32]) :
      Computes add [.int x.toInt64, .int y.toInt64] (.int z.toInt64)
  | product {x y z : Int32} (wraps : z.toInt ≡ x.toInt * y.toInt [ZMOD 2 ^ 32]) :
      Computes multiply [.int x.toInt64, .int y.toInt64] (.int z.toInt64)
  /-- A place up to one is its own answer, negative ones included. -/
  | early {n : Int64} (early : n.toInt ≤ 1) : Computes fibonacci [.int n] (.int n)
  | later {n number : Int64} (later : 2 ≤ n.toInt) (climbs : Climbs 0 1 (n.toInt.toNat - 1) number)
      (ends : number.toInt = Nat.fib n.toInt.toNat) : Computes fibonacci [.int n] (.int number)
  | greeting {value : Value} {name : String} (denotes : Param.text.Denotes value name) :
      Computes greet [value] (.binary (greeting name))

end Formula

end Example

/-! ### What handlers return -/

namespace Handler

variable {values : List Value} {result : Data}

/-- **A handler returns what its function makes of the values that the meanings denote.** -/
theorem returns_iff {handler : Handler} :
    handler.Returns values result ↔ ∃ arguments, Arguments.Denoted handler.params values arguments ∧
      handler.body arguments = .returned result := by
  constructor
  · rintro ⟨length, arguments, read, body⟩
    exact ⟨arguments, (Arguments.read_eq_ok_iff length).mp read, body⟩
  · rintro ⟨arguments, denoted, body⟩
    have length := Arguments.length_of_denoted denoted
    exact ⟨length, arguments, (Arguments.read_eq_ok_iff length).mpr denoted, body⟩

/-- A handler with one parameter. -/
theorem returns_one_iff {param : Param} {body : Arguments [param] → Ending Data} :
    Returns ⟨[param], body⟩ values result ↔
      ∃ value carried, values = [value] ∧ param.Denotes value carried ∧
      body (carried, ()) = .returned result := by
  rw [returns_iff]
  constructor
  · rintro ⟨⟨carried, ⟨⟩⟩, denoted, returned⟩
    obtain ⟨value, rfl⟩ := List.length_eq_one_iff.mp (Arguments.length_of_denoted denoted)
    exact ⟨value, carried, rfl, denoted.1, returned⟩
  · rintro ⟨value, carried, rfl, denotes, returned⟩
    exact ⟨(carried, ()), ⟨denotes, trivial⟩, returned⟩

/-- A handler with two parameters. -/
theorem returns_two_iff {one two : Param} {body : Arguments [one, two] → Ending Data} :
    Returns ⟨[one, two], body⟩ values result ↔ ∃ value other first second, values = [value, other] ∧
      one.Denotes value first ∧ two.Denotes other second ∧
      body (first, second, ()) = .returned result := by
  rw [returns_iff]
  constructor
  · rintro ⟨⟨first, second, ⟨⟩⟩, denoted, returned⟩
    obtain ⟨value, other, rfl⟩ := List.length_eq_two.mp (Arguments.length_of_denoted denoted)
    exact ⟨value, other, first, second, rfl, denoted.1, denoted.2.1, returned⟩
  · rintro ⟨value, other, first, second, rfl, denotes, denotesToo, returned⟩
    exact ⟨(first, second, ()), ⟨denotes, denotesToo, trivial⟩, returned⟩

end Handler

namespace Example

variable {values : List Value} {result : Data}

/-- An operation on two integers of 32 bits, as a handler. -/
theorem returns_binary_iff {operation : Int32 → Int32 → Int32} :
    Handler.Returns ⟨[.i32, .i32], fun (a, b, ()) => .returned (.i32 (operation a b))⟩
      values result ↔
      ∃ x y, values = [.int x.toInt64, .int y.toInt64] ∧ result = .i32 (operation x y) := by
  rw [Handler.returns_two_iff]
  constructor
  · rintro ⟨_, _, x, y, rfl, rfl, rfl, ⟨⟩⟩
    exact ⟨x, y, rfl, rfl⟩
  · rintro ⟨x, y, rfl, rfl⟩
    exact ⟨_, _, x, y, rfl, rfl, rfl, rfl⟩

theorem returns_fibonacci_iff : fibonacciHandler.Returns values result ↔
    ∃ n, values = [.int n] ∧ result = ofResult ((fibonacci n).map .i64) := by
  rw [fibonacciHandler, Handler.returns_one_iff]
  constructor
  · rintro ⟨_, n, rfl, rfl, ⟨⟩⟩
    exact ⟨n, rfl, rfl⟩
  · rintro ⟨n, rfl, rfl⟩
    exact ⟨_, n, rfl, rfl, rfl⟩

theorem returns_greet_iff : greetHandler.Returns values result ↔
    ∃ value name, values = [value] ∧ Param.text.Denotes value name ∧
      result = .text (greet name) := by
  rw [greetHandler, Handler.returns_one_iff]
  constructor
  · rintro ⟨value, name, rfl, denotes, ⟨⟩⟩
    exact ⟨value, name, rfl, denotes, rfl⟩
  · rintro ⟨value, name, rfl, denotes, rfl⟩
    exact ⟨value, name, rfl, denotes, rfl⟩

/-- The bytes of a greeting are put together from those of its parts. -/
theorem utf8Bytes_greet (name : String) : utf8Bytes (greet name) = Formula.greeting name := by
  show utf8Bytes ("Hello, " ++ name ++ " from Rust!") = _
  rw [utf8Bytes_append, utf8Bytes_append, Formula.greeting]

namespace Formula

variable {formula : Formula}

/-- A result is one part at most, and no atom. -/
theorem parts_of_returns (returns : formula.handler.Returns values result) :
    ∃ part, result.parts = [part] ∧ part.name? = none := by
  cases formula with
  | add | multiply =>
    obtain ⟨x, y, -, rfl⟩ := returns_binary_iff.mp returns
    exact ⟨_, rfl, rfl⟩
  | fibonacci =>
    obtain ⟨n, -, rfl⟩ := returns_fibonacci_iff.mp returns
    cases Example.fibonacci n <;> exact ⟨_, rfl, rfl⟩
  | greet =>
    obtain ⟨value, name, -, -, rfl⟩ := returns_greet_iff.mp returns
    exact ⟨_, rfl, rfl⟩

/-- Room for one object, and for the reason to raise, is enough. -/
theorem fits_of_room {frame : Frame} (room : frame.Room 1 {Frame.badarg}) (values : List Value) :
    (Callable.typed formula.handler).Fits values frame := by
  refine ⟨room.atoms, fun result returns => ?_⟩
  obtain ⟨part, parts, unnamed⟩ := parts_of_returns returns
  have made : (Parts.made [part]).Sublist [part] := List.takeWhile_sublist _
  have few : Parts.cells [part] ≤ 1 := List.countP_le_length.trans made.length_le
  have nameless : Parts.names [part] = ∅ := by
    refine List.toFinset_eq_empty_iff _ |>.mpr
      (List.filterMap_eq_nil_iff.mpr fun other member => ?_)
    rwa [List.mem_singleton.mp (made.subset member)]
  rw [parts, nameless, Finset.empty_union]
  exact room.mono few le_rfl

theorem length_greeting (name : String) :
    (greeting name).length = (utf8Bytes name).length + 18 := by
  have opening : (utf8Bytes "Hello, ").length = 7 := by decide
  have closing : (utf8Bytes " from Rust!").length = 11 := by decide
  rw [greeting, List.length_append, List.length_append]
  omega

/-- A greeting can be made exactly if there is memory for its bytes. -/
theorem firstFault_greet_iff (name : String) :
    (Data.text (Example.greet name)).parts.firstFault = none ↔
    (greeting name).length < Interface.allocationLimit := by
  show Parts.firstFault [Data.text (Example.greet name)] = none ↔ _
  rw [← utf8Bytes_greet, Parts.firstFault_eq_none_iff, List.forall_mem_singleton, Data.fault?,
    Data.sizeFault?, ite_eq_left_iff]
  simp

/-- Memory suffices for the greeting of a text that is on the heap. -/
theorem length_greeting_lt {frame : Frame} {word : Word} {value : Value} {name : String}
    (shows : frame.Shows word value) (denotes : Param.text.Denotes value name)
    (memory : ∀ bytes, value = .binary bytes → bytes.length + 18 < Interface.allocationLimit) :
    (greeting name).length < Interface.allocationLimit := by
  rw [length_greeting]
  rcases denotes with rfl | ⟨rfl, -⟩
  · exact memory _ rfl
  · exact (Nat.add_le_add_right (utf8Bytes_length_le_of_shows shows) 18).trans_lt (by decide)

/-- **From the arguments that it is for, the handler of a function computes a value.** -/
theorem image?_of_takes {frame : Frame} {words : List Word} (means : frame.Means words values)
    (takes : formula.Takes values) :
    ∃ value, formula.Computes values value ∧
      (Callable.typed formula.handler).image? values = some value := by
  cases formula with
  | add =>
    obtain ⟨x, y, rfl⟩ := takes
    have wraps : (Example.add x y).toInt ≡ x.toInt + y.toInt [ZMOD 2 ^ 32] := by
      rw [Example.add, Int32.toInt_add]
      exact Int.bmod_emod
    exact ⟨_, .sum wraps, Callable.image?_of_returns (returns_binary_iff.mpr ⟨x, y, rfl, rfl⟩) rfl⟩
  | multiply =>
    obtain ⟨x, y, rfl⟩ := takes
    have wraps : (Example.multiply x y).toInt ≡ x.toInt * y.toInt [ZMOD 2 ^ 32] := by
      rw [Example.multiply, Int32.toInt_mul]
      exact Int.bmod_emod
    exact ⟨_, .product wraps,
      Callable.image?_of_returns (returns_binary_iff.mpr ⟨x, y, rfl, rfl⟩) rfl⟩
  | fibonacci =>
    obtain ⟨n, last, rfl⟩ := takes
    by_cases early : n.toInt ≤ 1
    · have returns := returns_fibonacci_iff.mpr ⟨n, rfl, rfl⟩
      rw [fibonacci_of_early early] at returns
      exact ⟨_, .early early, Callable.image?_of_returns returns rfl⟩
    · obtain ⟨number, done, climbs, ends⟩ := fibonacci_of_later (by omega) last
      have returns := returns_fibonacci_iff.mpr ⟨n, rfl, rfl⟩
      rw [done] at returns
      exact ⟨_, .later (by omega) climbs ends, Callable.image?_of_returns returns rfl⟩
  | greet =>
    obtain ⟨value, name, rfl, denotes, memory⟩ := takes
    obtain ⟨word, rfl⟩ := List.length_eq_one_iff.mp means.length_eq
    have shows : frame.Shows word value := Frame.shows (List.forall₂_cons.mp means).1
    have clean := (firstFault_greet_iff name).mpr (length_greeting_lt shows denotes memory)
    have image :=
      Callable.image?_of_returns (returns_greet_iff.mpr ⟨value, name, rfl, denotes, rfl⟩) clean
    rw [Data.image, utf8Bytes_greet] at image
    exact ⟨_, .greeting denotes, image⟩

/-- **From all other arguments it computes nothing.** -/
theorem image?_of_not_takes (refuses : ¬ formula.Takes values) :
    (Callable.typed formula.handler).image? values = none := by
  refine Callable.image?_of_fails fun result returns => ?_
  cases formula with
  | add | multiply =>
    obtain ⟨x, y, rfl, -⟩ := returns_binary_iff.mp returns
    exact absurd ⟨x, y, rfl⟩ refuses
  | fibonacci =>
    obtain ⟨n, rfl, rfl⟩ := returns_fibonacci_iff.mp returns
    have beyond : 92 < n.toInt := Int.not_le.mp fun last => refuses ⟨n, last, rfl⟩
    rw [fibonacci_of_beyond beyond]
    exact Option.some_ne_none _
  | greet =>
    obtain ⟨value, name, rfl, denotes, rfl⟩ := returns_greet_iff.mp returns
    intro clean
    have fits := (firstFault_greet_iff name).mp clean
    rw [length_greeting] at fits
    refine refuses ⟨value, name, rfl, denotes, ?_⟩
    rintro bytes rfl
    rcases denotes with same | ⟨other, -⟩
    · rwa [Value.binary.inj same]
    · cases other

end Formula

end Example

/-! ### Calls -/

namespace Module.Loaded

open Example

/-- A loaded library calls the handler of each function under its name. -/
theorem function?_formula {module : Loaded} (describes : builder.Describes module)
    (formula : Formula) :
    ∃ function, module.function? formula.name formula.handler.arity = some function ∧
      function.body = (Callable.typed formula.handler).native := by
  have found := describes.found _ formula.mem_builder
  have arity : (typed formula.name formula.handler).arity.toNat = formula.handler.arity := by
    cases formula <;> rfl
  rw [arity] at found
  exact ⟨_, found, rfl⟩

variable {host : Host} {module : Loaded} {frame : Frame} {args : List Word} {values : List Value}

/-- **Calls of the library compute what its functions are named for.** Whatever is pending, a call
with as many arguments as the function has parameters gives the value that the function computes, if
the arguments are such as it is for, and `badarg` if they are not; nothing is pending afterwards. -/
theorem library_computes (loaded : (Loaded.loadFrom library host).1 = .ok module)
    (formula : Formula)
    (declared : args.length = formula.handler.arity) (means : frame.Means args values)
    (room : frame.Room 1 {Frame.badarg}) :
    (formula.Takes values → ∃ value, formula.Computes values value ∧
      Gives (some value) (module.call formula.name args frame)) ∧
    (¬ formula.Takes values → Gives none (module.call formula.name args frame)) ∧
    (module.call formula.name args frame).2.env.exception = none := by
  obtain ⟨handle, loadedToo, describes⟩ := library_describes host
  obtain rfl := Except.ok.inj (loaded.symm.trans loadedToo)
  obtain ⟨function, found, body⟩ := function?_formula describes formula
  rw [← declared] at found
  have few : args.length < 2 ^ 31 := by
    rw [declared]
    cases formula <;> decide
  have gives : Gives ((Callable.typed formula.handler).image? values)
      (module.call formula.name args frame) :=
    gives_of_found found body few means (Formula.fits_of_room room values)
  refine ⟨fun takes => ?_, fun refuses => ?_, exception_of_found found frame⟩
  · obtain ⟨value, computes, image⟩ := Formula.image?_of_takes means takes
    rw [image] at gives
    exact ⟨value, computes, gives⟩
  · rwa [Formula.image?_of_not_takes refuses] at gives

/-- The last Fibonacci number of 64 bits, the place after it, and a greeting to the charlist of
U+00E9, all called for while an exception is pending. -/
theorem library_computes_last :
    ∃ (host : Host) (module : Loaded) (frame : Frame),
      (Loaded.loadFrom library host).1 = .ok module ∧ frame.env.exception = some Word.nil ∧
      Gives (some (.int 7540113804746346429)) (module.call "fibonacci" [⟨92 * 16 + 15⟩] frame) ∧
      Gives none (module.call "fibonacci" [⟨93 * 16 + 15⟩] frame) ∧
      Gives (some (.binary (utf8Bytes "Hello, é from Rust!")))
        (module.call "greet" [Word.boxed 1 0] frame) ∧
      (module.call "greet" [Word.boxed 1 0] frame).2.env.exception = none := by
  let frame : Frame :=
    ⟨{ id := 1, exception := some Word.nil, heap := #[.cons ⟨233 * 16 + 15⟩ Word.nil],
       size_le := by decide }, {}⟩
  have room : frame.Room 1 {Frame.badarg} := ⟨by decide, AtomTable.Admits.of_card (by decide)⟩
  obtain ⟨module, loaded, -⟩ := library_describes {}
  have last : frame.Means [⟨92 * 16 + 15⟩] [.int 92] := .cons rfl .nil
  have beyond : frame.Means [⟨93 * 16 + 15⟩] [.int 93] := .cons rfl .nil
  have charlist : frame.Means [Word.boxed 1 0] [.list [.int 233]] := .cons rfl .nil
  obtain ⟨computes, -, -⟩ := library_computes loaded .fibonacci rfl last room
  obtain ⟨-, refuses, -⟩ := library_computes loaded .fibonacci rfl beyond room
  obtain ⟨greets, -, quiet⟩ := library_computes loaded .greet rfl charlist room
  refine ⟨{}, module, frame, loaded, rfl, ?_, refuses ?_, ?_, quiet⟩
  · obtain ⟨value, computed, gives⟩ := computes ⟨92, by decide, rfl⟩
    cases computed with
    | early early => exact absurd early (by decide)
    | @later _ number _ _ ends =>
      obtain rfl : number = 7540113804746346429 := by
        rw [← Int64.toInt_inj, ends]
        decide +kernel
      exact gives
  · rintro ⟨n, low, same⟩
    obtain rfl := Value.int.inj (List.cons.inj same).1
    exact absurd low (by decide)
  · obtain ⟨value, computed, gives⟩ := greets ⟨_, "é", rfl, .inr ⟨rfl, by simp⟩, nofun⟩
    cases computed with
    | @greeting _ name denotes =>
      rcases denotes with binary | ⟨same, -⟩
      · cases binary
      · obtain rfl : name = "é" := Value.codePoints_injective (Value.list.inj same).symm
        exact gives

end Module.Loaded

end Nif
