import Chrysopolis.Support.Delimited

/-! Codes whose words can be told apart in front of any rest. A word may show less than its whole
value; what it shows is the view. Concatenation, terminated names and counted lists keep a code
unambiguous. -/

set_option autoImplicit false

namespace Chrysopolis.Support.PrefixCode

variable {α β γ δ ε : Type}

/-- A word in front of a rest determines the view of its value, and the rest. -/
def Unambiguous (valid : α → Prop) (encode : α → List β) (view : α → γ) : Prop :=
  ∀ ⦃first second : α⦄, valid first → valid second → ∀ ⦃rest rest' : List β⦄,
    encode first ++ rest = encode second ++ rest' → view first = view second ∧ rest = rest'

variable {valid : α → Prop} {encode : α → List β} {view : α → γ}

theorem Unambiguous.view_eq (code : Unambiguous valid encode view) {first second : α}
    (firstValid : valid first) (secondValid : valid second)
    (same : encode first = encode second) : view first = view second := by
  have words : encode first ++ [] = encode second ++ [] := by rw [same]
  exact (code firstValid secondValid words).1

/-- Words of one length. -/
theorem of_length {size : Nat} (length : ∀ value, (encode value).length = size)
    (injective : ∀ first second, valid first → valid second → encode first = encode second →
      first = second) : Unambiguous valid encode id := by
  intro first second firstValid secondValid rest rest' same
  obtain ⟨words, rests⟩ := List.append_inj same ((length first).trans (length second).symm)
  exact ⟨injective first second firstValid secondValid words, rests⟩

/-- Words without the terminator that ends them. -/
theorem terminated [DecidableEq β] (stop : β) :
    Unambiguous (stop ∉ ·) (fun text => text ++ [stop]) (id : List β → List β) := by
  intro first second firstFree secondFree rest rest' same
  rw [List.append_assoc, List.append_assoc] at same
  have split := congrArg (Delimited.splitFirst stop) same
  rw [List.singleton_append, List.singleton_append, Delimited.splitFirst_append firstFree,
    Delimited.splitFirst_append secondFree, Option.some.injEq, Prod.mk.injEq] at split
  exact split

theorem Unambiguous.comap (code : Unambiguous valid encode view) (part : δ → α) :
    Unambiguous (fun value => valid (part value)) (fun value => encode (part value))
      fun value => view (part value) :=
  fun _ _ firstValid secondValid _ _ same => code firstValid secondValid same

theorem Unambiguous.mono {valid' : α → Prop} (code : Unambiguous valid encode view)
    (weaker : ∀ value, valid' value → valid value) : Unambiguous valid' encode view :=
  fun first second firstValid secondValid _ _ same =>
    code (weaker first firstValid) (weaker second secondValid) same

theorem Unambiguous.map (code : Unambiguous valid encode view) (change : γ → ε) :
    Unambiguous valid encode fun value => change (view value) := by
  intro first second firstValid secondValid rest rest' same
  obtain ⟨views, rests⟩ := code firstValid secondValid same
  exact ⟨congrArg change views, rests⟩

/-- A word and the next one. -/
theorem Unambiguous.append {valid' : α → Prop} {encode' : α → List β} {view' : α → δ}
    (code : Unambiguous valid encode view) (next : Unambiguous valid' encode' view') :
    Unambiguous (fun value => valid value ∧ valid' value)
      (fun value => encode value ++ encode' value) fun value => (view value, view' value) := by
  intro first second firstValid secondValid rest rest' same
  rw [List.append_assoc, List.append_assoc] at same
  obtain ⟨head, tail⟩ := code firstValid.1 secondValid.1 same
  obtain ⟨last, rests⟩ := next firstValid.2 secondValid.2 tail
  exact ⟨Prod.ext head last, rests⟩

theorem Unambiguous.flatMap (code : Unambiguous valid encode view) {first second : List α}
    (firstValid : ∀ value ∈ first, valid value) (secondValid : ∀ value ∈ second, valid value)
    (lengths : first.length = second.length) {rest rest' : List β}
    (same : first.flatMap encode ++ rest = second.flatMap encode ++ rest') :
    first.map view = second.map view ∧ rest = rest' := by
  induction first generalizing second with
  | nil =>
      cases List.eq_nil_of_length_eq_zero lengths.symm
      exact ⟨rfl, same⟩
  | cons value first ih =>
      cases second with
      | nil => cases lengths
      | cons other second =>
          rw [List.flatMap_cons, List.flatMap_cons, List.append_assoc, List.append_assoc] at same
          obtain ⟨head, tail⟩ := code (firstValid value List.mem_cons_self)
            (secondValid other List.mem_cons_self) same
          obtain ⟨values, rests⟩ := ih
            (fun value member => firstValid value (List.mem_cons_of_mem _ member))
            (fun value member => secondValid value (List.mem_cons_of_mem _ member))
            (Nat.succ.inj lengths) tail
          exact ⟨by rw [List.map_cons, List.map_cons, head, values], rests⟩

/-- A list behind the number of its items. -/
theorem Unambiguous.counted {fits : Nat → Prop} {count : Nat → List β}
    (counts : Unambiguous fits count id) (code : Unambiguous valid encode view) :
    Unambiguous (fun list => fits list.length ∧ ∀ value ∈ list, valid value)
      (fun list => count list.length ++ list.flatMap encode) (List.map view) := by
  intro first second firstValid secondValid rest rest' same
  rw [List.append_assoc, List.append_assoc] at same
  obtain ⟨lengths, tail⟩ := counts firstValid.1 secondValid.1 same
  exact code.flatMap firstValid.2 secondValid.2 lengths tail

end Chrysopolis.Support.PrefixCode
