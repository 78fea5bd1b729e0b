import Stencil.Value.Display

/-!
# The integers in a value

Only integers of too many digits keep a value from having a text: the ones that its text would show,
in whatever list, mapping or range they stand.
-/

set_option autoImplicit false

namespace Stencil.Value

mutual

/-- The integers that the text of a value shows. -/
def integers : Value → List Int
  | .int n => [n]
  | .list items | .tuple items | .set items | .shared _ _ items => itemIntegers items
  | .range start stop step => [start, stop, step]
  | .dict entries | .view entries => entryIntegers entries
  | _ => []

/-- The integers in the elements of a collection. -/
def itemIntegers : List Value → List Int
  | [] => []
  | v :: rest => integers v ++ itemIntegers rest

/-- The integers in the keys and values of a mapping. -/
def entryIntegers : List (Value × Value) → List Int
  | [] => []
  | (k, v) :: rest => integers k ++ (integers v ++ entryIntegers rest)

end

/-- Integers that have a text. -/
def Writable (ns : List Int) : Prop := ∀ n ∈ ns, Number.isWritable n

theorem writable_append {a b : List Int} : Writable (a ++ b) ↔ Writable a ∧ Writable b :=
  List.forall_mem_append

theorem integerText?_isSome {n : Int} (h : Number.isWritable n) :
    (Number.integerText? n).isSome := by
  unfold Number.integerText?
  rw [if_pos h]
  rfl

theorem rangeText?_isSome {start stop step : Int} (h : Writable [start, stop, step]) :
    (rangeText? start stop step).isSome := by
  have htext : ∀ n ∈ [start, stop, step], ∃ t, Number.integerText? n = some t :=
    fun n hn => Option.isSome_iff_exists.1 (integerText?_isSome (h n hn))
  obtain ⟨a, ha⟩ := htext start (by simp)
  obtain ⟨b, hb⟩ := htext stop (by simp)
  obtain ⟨c, hc⟩ := htext step (by simp)
  simp [rangeText?, ha, hb, hc]

mutual

theorem quoted?_isSome : ∀ v : Value, Writable v.integers → v.quoted?.isSome
  | .int n, h => integerText?_isSome (h n (List.mem_singleton_self n))
  | .list items, h | .shared _ .list items, h => by
    obtain ⟨parts, hparts⟩ := Option.isSome_iff_exists.1 (quotedAll?_isSome items h)
    simp [quoted?, hparts]
  | .tuple items, h => by
    obtain ⟨parts, hparts⟩ := Option.isSome_iff_exists.1 (quotedAll?_isSome items h)
    simp only [quoted?, hparts, Option.bind_eq_bind, Option.bind_some]
    split <;> rfl
  | .set items, h | .shared _ .set items, h => by
    obtain ⟨parts, hparts⟩ := Option.isSome_iff_exists.1 (quotedAll?_isSome items h)
    simp [quoted?, hparts]
  | .range start stop step, h => rangeText?_isSome h
  | .dict entries, h => by
    obtain ⟨pairs, hpairs⟩ := Option.isSome_iff_exists.1 (quotedEntries?_isSome entries h)
    simp [quoted?, hpairs]
  | .view entries, h => by
    obtain ⟨pairs, hpairs⟩ := Option.isSome_iff_exists.1 (quotedEntries?_isSome entries h)
    simp [quoted?, hpairs]
  | .undefined, _ | .bool _, _ | .float _, _ | .text _, _ | .safe _, _ | .bytes _, _
  | .object _ _ _ _, _ | .routine _ _ _, _ | .method _ _, _ | .cursor _ _, _ | .itself, _ => rfl

theorem quotedAll?_isSome : ∀ items : List Value, Writable (itemIntegers items) →
    (quotedAll? items).isSome
  | [], _ => rfl
  | v :: rest, h => by
    obtain ⟨hv, hrest⟩ := writable_append.1 h
    obtain ⟨t, ht⟩ := Option.isSome_iff_exists.1 (quoted?_isSome v hv)
    obtain ⟨parts, hparts⟩ := Option.isSome_iff_exists.1 (quotedAll?_isSome rest hrest)
    simp [quotedAll?, ht, hparts]

theorem quotedEntries?_isSome : ∀ entries : List (Value × Value),
    Writable (entryIntegers entries) → (quotedEntries? entries).isSome
  | [], _ => rfl
  | (k, v) :: rest, h => by
    obtain ⟨hk, hrest⟩ := writable_append.1 h
    obtain ⟨hv, hrest⟩ := writable_append.1 hrest
    obtain ⟨s, hs⟩ := Option.isSome_iff_exists.1 (quoted?_isSome k hk)
    obtain ⟨t, ht⟩ := Option.isSome_iff_exists.1 (quoted?_isSome v hv)
    obtain ⟨pairs, hpairs⟩ := Option.isSome_iff_exists.1 (quotedEntries?_isSome rest hrest)
    simp [quotedEntries?, hs, ht, hpairs]

end

/-- A value whose integers have texts has a text itself. -/
theorem output?_isSome {v : Value} (h : Writable v.integers) : v.output?.isSome := by
  have hquoted := quoted?_isSome v h
  cases v with
  | view entries =>
    obtain ⟨pairs, hpairs⟩ := Option.isSome_iff_exists.1 (quotedEntries?_isSome entries h)
    simp [output?, plain?, hpairs]
  | undefined => rfl
  | bool b => rfl
  | text t => rfl
  | safe t => rfl
  | _ => exact hquoted

end Stencil.Value
