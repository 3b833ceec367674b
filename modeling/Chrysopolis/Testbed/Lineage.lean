import Chrysopolis.Support.Transversal
import Chrysopolis.Testbed.Faults
import Mathlib.Data.Finset.Sort
import Mathlib.Data.List.Lex
import Mathlib.Data.Prod.Lex
import Mathlib.Data.String.Basic

/-! `lineage.py`: why a step succeeded, and the smallest fault sets that would undo it. -/

set_option autoImplicit false

namespace Chrysopolis.Testbed.Faults

open Chrysopolis.Support

/-! ### Atoms -/

inductive Atom where
  /-- The driver incarnation that served the step. -/
  | instanceOf (driver : Driver) (epoch : Nat)
  /-- Root restarting the driver into the next incarnation. -/
  | recovered (driver : Driver) (epoch : Nat)
  /-- Root still having budget to restart the driver. -/
  | budget (driver : Driver)
  /-- One region of the file the step touched being readable or writable. -/
  | sectors (region : Region) (file : FileNumber)
  deriving DecidableEq, Repr

def driverName : Driver → String
  | .serial => "serial"
  | .timer => "timer"
  | .blk => "blk"
  | .eth => "eth"

def regionName : Region → String
  | .data => "data"
  | .fat => "fat"
  | .entry => "entry"

namespace Atom

/-- `repr` of the dataclasses. -/
def repr : Atom → String
  | .instanceOf driver epoch =>
      "Instance(driver='" ++ (driverName driver ++ ("', epoch=" ++ (Nat.repr epoch ++ ")")))
  | .recovered driver epoch =>
      "Recovered(driver='" ++ (driverName driver ++ ("', epoch=" ++ (Nat.repr epoch ++ ")")))
  | .budget driver => "Budget(driver='" ++ (driverName driver ++ "')")
  | .sectors region file =>
      "Sectors(region='" ++ (regionName region ++ ("', file=" ++ (Nat.repr file ++ ")")))

theorem natRepr_injective : Function.Injective Nat.repr := by
  intro first second same
  have digits : Nat.toDigits 10 first = Nat.toDigits 10 second := by
    have chars := congrArg String.toList same
    simpa only [Nat.repr_eq_ofList_toDigits, String.toList_ofList] using chars
  calc
    first = Nat.ofDigitChars 10 (Nat.toDigits 10 first) 0 := Nat.ofDigitChars_ten_toDigits.symm
    _ = Nat.ofDigitChars 10 (Nat.toDigits 10 second) 0 := by rw [digits]
    _ = second := Nat.ofDigitChars_ten_toDigits

theorem head?_append {text rest : String} {c : Char} (starts : text.toList.head? = some c) :
    (text ++ rest).toList.head? = some c := by
  rw [String.toList_append, List.head?_append, starts, Option.some_or]

/-- Names with distinct first letters are told apart in front of any rest. -/
theorem lettered_append {α : Type} {name : α → String}
    (nonempty : ∀ value, (name value).toList ≠ [])
    (apart : ∀ first second, (name first).toList.head? = (name second).toList.head? →
      first = second)
    {first second : α} {left right : String} (same : name first ++ left = name second ++ right) :
    first = second ∧ left = right := by
  have heads := congrArg (fun text : String => text.toList.head?) same
  simp only [String.toList_append, List.head?_append_of_ne_nil _ (nonempty _)] at heads
  obtain rfl := apart first second heads
  exact ⟨rfl, (String.append_right_inj _).mp same⟩

theorem driverName_append {first second : Driver} {left right : String}
    (same : driverName first ++ left = driverName second ++ right) :
    first = second ∧ left = right :=
  lettered_append (by rintro ⟨⟩ <;> decide) (by rintro ⟨⟩ ⟨⟩ <;> decide) same

theorem regionName_append {first second : Region} {left right : String}
    (same : regionName first ++ left = regionName second ++ right) :
    first = second ∧ left = right :=
  lettered_append (by rintro ⟨⟩ <;> decide) (by rintro ⟨⟩ ⟨⟩ <;> decide) same

theorem numbered_append {text : String} {first second : Nat}
    (same : text ++ (Nat.repr first ++ ")") = text ++ (Nat.repr second ++ ")")) :
    first = second :=
  natRepr_injective ((String.append_left_inj _).mp ((String.append_right_inj _).mp same))

/-- The first letter of an atom's text. -/
def letter : Atom → Char
  | .instanceOf .. => 'I'
  | .recovered .. => 'R'
  | .budget _ => 'B'
  | .sectors .. => 'S'

theorem head?_repr (atom : Atom) : atom.repr.toList.head? = some atom.letter := by
  cases atom <;> exact head?_append rfl

theorem repr_injective : Function.Injective repr := by
  intro first second same
  have letters : first.letter = second.letter := by
    have heads := congrArg (fun text : String => text.toList.head?) same
    rw [head?_repr, head?_repr] at heads
    exact Option.some.inj heads
  cases first with
  | instanceOf driver epoch =>
      cases second with
      | instanceOf other number =>
          obtain ⟨rfl, rest⟩ := driverName_append ((String.append_right_inj _).mp same)
          rw [numbered_append rest]
      | recovered | budget | sectors => simp [letter] at letters
  | recovered driver epoch =>
      cases second with
      | recovered other number =>
          obtain ⟨rfl, rest⟩ := driverName_append ((String.append_right_inj _).mp same)
          rw [numbered_append rest]
      | instanceOf | budget | sectors => simp [letter] at letters
  | budget driver =>
      cases second with
      | budget other =>
          obtain ⟨rfl, -⟩ := driverName_append ((String.append_right_inj _).mp same)
          rfl
      | instanceOf | recovered | sectors => simp [letter] at letters
  | sectors region file =>
      cases second with
      | sectors other number =>
          obtain ⟨rfl, rest⟩ := regionName_append ((String.append_right_inj _).mp same)
          rw [Fin.ext (numbered_append rest)]
      | instanceOf | recovered | budget => simp [letter] at letters

end Atom

/-! ### Hitting sets -/

/-- `(len(t), sorted(map(repr, t)))` -/
def reprKey (set : Finset Atom) : Nat ×ₗ List String :=
  toLex (set.card, (set.val.map Atom.repr).sort (· ≤ ·))

theorem reprKey_injective : Function.Injective reprKey := by
  intro first second same
  have sorted := congrArg (fun key => (ofLex key).2) same
  have reprs : first.val.map Atom.repr = second.val.map Atom.repr := by
    have unsorted := congrArg (fun texts : List String => (texts : Multiset String)) sorted
    simpa only [reprKey, ofLex_toLex, Multiset.sort_eq] using unsorted
  exact Finset.val_injective (Multiset.map_injective Atom.repr_injective reprs)

/-- The order of the answer of `hitting_sets`. -/
def Before (first second : Finset Atom) : Prop := reprKey first ≤ reprKey second

instance : DecidableRel Before := fun first second =>
  inferInstanceAs (Decidable (reprKey first ≤ reprKey second))

instance : IsTrans (Finset Atom) Before := ⟨fun _ _ _ => le_trans⟩

instance : Std.Antisymm Before := ⟨fun _ _ below above =>
  reprKey_injective (le_antisymm below above)⟩

instance : Std.Total Before := ⟨fun _ _ => le_total _ _⟩

/-- One turn of the loop of `hitting_sets`. -/
def addSupport (maxSize : Int) (transversals : Finset (Finset Atom)) (support : Finset Atom) :
    Finset (Finset Atom) :=
  let grown := transversals.biUnion fun t => support.image fun atom =>
    if (t ∩ support).Nonempty then t else insert atom t
  let small := grown.filter fun t => (t.card : Int) ≤ maxSize
  small.filter fun t => ¬∃ other ∈ small, other ⊂ t

def hittingSets (supports : List (Finset Atom)) (maxSize : Int := 2) : List (Finset Atom) :=
  (supports.foldl (addSupport maxSize) {∅}).sort Before

/-! ### Lineage and cuts -/

/-- `PATHS`: the drivers a step goes through. -/
def paths : Step → List Driver
  | .storage (.put ..) | .storage (.get _) => [.blk]
  | .net .ping => [.eth]
  | _ => []

/-- `itertools.product` -/
def product {α : Type} : List (List α) → List (List α)
  | [] => [[]]
  | choices :: rest => choices.flatMap fun choice => (product rest).map (choice :: ·)

/-- The alternatives of one driver of `lineage`. -/
def driverAlternatives (model : Model) (driver : Driver) : List (Finset Atom) :=
  let chart := model.root.chart driver
  let epoch := chart.model.spent
  {.instanceOf driver epoch} ::
    if chart.model.hasBudget then [{.recovered driver (epoch + 1), .budget driver}] else []

/-- The regions of the file that a put or a get of a file with data uses. -/
def stepSectors (step : Step) (model : Model) : Finset Atom :=
  match step with
  | .storage (.put file _) | .storage (.get file) =>
      if (model.storage.file file).state = .held ∨ (model.storage.file file).state = .corrupt then
        (regions.map fun region => .sectors region file).toFinset
      else ∅
  | _ => ∅

def lineage (step : Step) (model : Model) : List (Finset Atom) :=
  (product ((paths step).map (driverAlternatives model))).map fun combo =>
    combo.foldl (· ∪ ·) (stepSectors step model)

/-- The driver of an atom that has one. -/
def Atom.driver? : Atom → Option Driver
  | .instanceOf driver _ | .recovered driver _ | .budget driver => some driver
  | .sectors .. => none

/-- What `cut` inserts for one driver. -/
def cutDriver (hit : Finset Atom) (model : Model) (driver : Driver) : List Step :=
  let chart := model.root.chart driver
  if .budget driver ∈ hit then
    -- A negative count repeats nothing.
    List.replicate (chart.model.budget - chart.model.spent + 1).toNat (.root (.fault driver true))
  else if ∃ atom ∈ hit, atom.driver? = some driver ∧ (atom matches .recovered ..) = true then
    [.root (.fault driver false), .root (.fault driver false)]
  else [.root (.fault driver true)]

/-- What `cut` inserts for one region. -/
def cutSectors (hit : Finset Atom) (step : Step) (region : Region) (file : FileNumber) :
    List Step :=
  let op := match step with
    | .storage (.get _) => Op.read
    | _ => .write
  if .sectors region file ∈ hit then [.storage (.arm op region file false)] else []

/-- `cut`: the steps before and after; drivers and regions go by their names. -/
def cut (hit : Finset Atom) (step : Step) (model : Model) : List Step × List Step :=
  let drivers := [Driver.blk, .eth, .serial, .timer].filter fun driver =>
    ∃ atom ∈ hit, atom.driver? = some driver
  let sectors := [Region.data, .entry, .fat].flatMap fun region =>
    (List.finRange files).flatMap (cutSectors hit step region)
  (drivers.flatMap (cutDriver hit model) ++ sectors,
    sectors.map fun _ => .storage .disarm)

end Chrysopolis.Testbed.Faults
