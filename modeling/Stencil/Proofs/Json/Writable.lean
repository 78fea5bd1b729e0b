import Stencil.Value.Json
import Stencil.Proofs.Session.Outcome

/-!
# Which values have a JSON text

A value has a compact JSON text unless some part of it, however deep inside, is foreign to JSON: a
value of another type, a name of a member that cannot be written, an integer of too many digits, or
a list that contains itself; or unless its collections are nested deeper than there is room for.
-/

set_option autoImplicit false

namespace Stencil

namespace Value

/-- Values that JSON keeps: made of what it knows, without finite numbers other than integers, and
with texts as the keys of mappings. -/
inductive IsData : Value → Prop where
  | undefined : IsData .undefined
  | bool (b : Bool) : IsData (.bool b)
  | int {n : Int} (h : Number.isWritable n) : IsData (.int n)
  | notFinite {x : Binary64} (h : x.isFinite = false) : IsData (.float x)
  | text (t : Text) : IsData (.text t)
  | safe (t : Text) : IsData (.safe t)
  | list {items : List Value} (h : ∀ v ∈ items, IsData v) : IsData (.list items)
  | tuple {items : List Value} (h : ∀ v ∈ items, IsData v) : IsData (.tuple items)
  | dict {entries : List (Value × Value)} (hkeys : ∀ e ∈ entries, e.1.text?.isSome)
      (hvalues : ∀ e ∈ entries, IsData e.2) : IsData (.dict entries)

/-- Values of types that JSON does not know. -/
def isForeign : Value → Bool
  | .bytes _ | .set _ | .shared _ .set _ | .range _ _ _ | .view _ | .object _ _ _ _
  | .routine _ _ _ | .method _ _ | .cursor _ _ => true
  | _ => false

/-- Values that can be written as the name of a member. -/
def isName : Value → Bool
  | .text _ | .safe _ | .undefined | .bool _ => true
  | .int n => Number.isWritable n
  | .float x => x.isFinite
  | _ => false

/-- Some part of a value, at whatever depth, has no JSON text. -/
inductive HasUnwritable : Value → Prop where
  | itself : HasUnwritable .itself
  | foreign {v : Value} (h : v.isForeign) : HasUnwritable v
  | int {n : Int} (h : ¬ Number.isWritable n) : HasUnwritable (.int n)
  | list {v : Value} {items : List Value} (hv : v ∈ items) (h : HasUnwritable v) :
      HasUnwritable (.list items)
  | tuple {v : Value} {items : List Value} (hv : v ∈ items) (h : HasUnwritable v) :
      HasUnwritable (.tuple items)
  | shared {v : Value} {cell : Nat} {items : List Value} (hv : v ∈ items) (h : HasUnwritable v) :
      HasUnwritable (.shared cell .list items)
  | name {e : Value × Value} {entries : List (Value × Value)} (he : e ∈ entries)
      (h : ¬ e.1.isName) : HasUnwritable (.dict entries)
  | value {e : Value × Value} {entries : List (Value × Value)} (he : e ∈ entries)
      (h : HasUnwritable e.2) : HasUnwritable (.dict entries)

mutual

/-- How deep the collections that JSON knows are nested in a value. -/
def depth : Value → Nat
  | .list items | .shared _ .list items => depthAll items + 1
  | .tuple items => depthAll items + 1
  | .dict entries => depthEntries entries + 1
  | _ => 0

/-- The depth of the deepest element of a list. -/
def depthAll : List Value → Nat
  | [] => 0
  | v :: rest => max (depth v) (depthAll rest)

/-- The depth of the deepest value in a mapping. -/
def depthEntries : List (Value × Value) → Nat
  | [] => 0
  | (_, v) :: rest => max (depth v) (depthEntries rest)

end

end Value

namespace Json

theorem integer_of_isWritable {n : Int} (h : Number.isWritable n) :
    integer n = .ok (Text.ofInt n) := by
  unfold integer Number.integerText?
  rw [if_pos h]

theorem integer_eq_ok {n : Int} {t : Text} (h : integer n = .ok t) :
    Number.isWritable n ∧ t = Text.ofInt n := by
  unfold integer Number.integerText? at h
  by_cases hn : Number.isWritable n
  · rw [if_pos hn] at h
    exact ⟨hn, (Except.ok.inj h).symm⟩
  · rw [if_neg hn] at h
    cases h

/-! ## Values without a text -/

theorem exists_ofValue_of_ofItems {s : JsonStyle} {items : List Value} {texts : List Text}
    (h : ofItems s items = .ok texts) : ∀ v ∈ items, ∃ t, ofValue s v = .ok t := by
  induction items generalizing texts with
  | nil => simp
  | cons u items ih =>
    rw [ofItems] at h
    obtain ⟨first, hfirst, h⟩ := eq_ok_of_bind_eq_ok h
    obtain ⟨others, hothers, -⟩ := eq_ok_of_bind_eq_ok h
    intro v hv
    rcases List.mem_cons.1 hv with rfl | hv
    · exact ⟨first, hfirst⟩
    · exact ih hothers v hv

theorem exists_of_ofEntries {s : JsonStyle} {entries : List (Value × Value)} {texts : List Text}
    (h : ofEntries s entries = .ok texts) :
    ∀ e ∈ entries, (∃ name, key s e.1 = .ok name) ∧ ∃ t, ofValue s e.2 = .ok t := by
  induction entries generalizing texts with
  | nil => simp
  | cons d entries ih =>
    obtain ⟨k, v⟩ := d
    rw [ofEntries] at h
    obtain ⟨name, hname, h⟩ := eq_ok_of_bind_eq_ok h
    obtain ⟨first, hfirst, h⟩ := eq_ok_of_bind_eq_ok h
    obtain ⟨others, hothers, -⟩ := eq_ok_of_bind_eq_ok h
    intro e he
    rcases List.mem_cons.1 he with rfl | he
    · exact ⟨⟨name, hname⟩, first, hfirst⟩
    · exact ih hothers e he

theorem isName_of_key {k : Value} {name : Text} (h : key .compact k = .ok name) : k.isName := by
  cases k with
  | int n =>
    rw [key] at h
    exact (integer_eq_ok h).1
  | float x =>
    rw [key] at h
    split at h
    · assumption
    · cases h
  | text t => rfl
  | safe t => rfl
  | undefined => rfl
  | bool b => rfl
  | _ => cases h

theorem not_ofValue_of_hasUnwritable {v : Value} (h : v.HasUnwritable) (t : Text) :
    ofValue .compact v ≠ .ok t := by
  induction h generalizing t with
  | itself => nofun
  | @foreign v hforeign =>
    intro htext
    cases v with
    | bytes | set | range | view | object | routine | method | cursor => cases htext
    | shared cell kind items =>
      cases kind with
      | list => cases hforeign
      | set => cases htext
    | _ => cases hforeign
  | int hn =>
    intro htext
    rw [ofValue] at htext
    exact hn (integer_eq_ok htext).1
  | list hv h ih | tuple hv h ih | shared hv h ih =>
    intro htext
    rw [ofValue] at htext
    obtain ⟨texts, htexts, -⟩ := eq_ok_of_bind_eq_ok htext
    obtain ⟨u, hu⟩ := exists_ofValue_of_ofItems htexts _ hv
    exact ih u hu
  | name he hname =>
    intro htext
    rw [ofValue] at htext
    obtain ⟨texts, htexts, -⟩ := eq_ok_of_bind_eq_ok htext
    obtain ⟨⟨name, hkey⟩, -⟩ := exists_of_ofEntries htexts _ he
    exact hname (isName_of_key hkey)
  | value he h ih =>
    intro htext
    rw [ofValue] at htext
    obtain ⟨texts, htexts, -⟩ := eq_ok_of_bind_eq_ok htext
    obtain ⟨-, u, hu⟩ := exists_of_ofEntries htexts _ he
    exact ih u hu

/-! ## Depth -/

mutual

theorem depth_le_of_fits : ∀ (v : Value) (room : Nat), fits room v → v.depth ≤ room
  | .list items, room | .shared _ .list items, room | .tuple items, room => by
    intro h
    rw [fits, Bool.and_eq_true, decide_eq_true_iff] at h
    have hitems := depthAll_le_of_allFit items (room - 1) h.2
    rw [Value.depth]
    omega
  | .dict entries, room => by
    intro h
    rw [fits, Bool.and_eq_true, decide_eq_true_iff] at h
    have hentries := depthEntries_le_of_entriesFit entries (room - 1) h.2
    rw [Value.depth]
    omega
  | .undefined, _ | .bool _, _ | .int _, _ | .float _, _ | .text _, _ | .safe _, _ | .bytes _, _
  | .set _, _ | .shared _ .set _, _ | .itself, _ | .range _ _ _, _ | .view _, _
  | .object _ _ _ _, _ | .routine _ _ _, _ | .method _ _, _ | .cursor _ _, _ =>
    fun _ => Nat.zero_le _

theorem depthAll_le_of_allFit : ∀ (items : List Value) (room : Nat), allFit room items →
    Value.depthAll items ≤ room
  | [], room => fun _ => Nat.zero_le room
  | v :: rest, room => by
    intro h
    rw [allFit, Bool.and_eq_true] at h
    rw [Value.depthAll]
    exact Nat.max_le.2 ⟨depth_le_of_fits v room h.1, depthAll_le_of_allFit rest room h.2⟩

theorem depthEntries_le_of_entriesFit : ∀ (entries : List (Value × Value)) (room : Nat),
    entriesFit room entries → Value.depthEntries entries ≤ room
  | [], room => fun _ => Nat.zero_le room
  | (k, v) :: rest, room => by
    intro h
    rw [entriesFit, Bool.and_eq_true] at h
    rw [Value.depthEntries]
    exact Nat.max_le.2 ⟨depth_le_of_fits v room h.1, depthEntries_le_of_entriesFit rest room h.2⟩

end

/-! ## Values with a text -/

theorem exists_key_of_isName {k : Value} (h : k.isName) : ∃ name, key .compact k = .ok name := by
  cases k with
  | int n =>
    refine ⟨Text.ofInt n, ?_⟩
    rw [key]
    exact integer_of_isWritable h
  | float x =>
    refine ⟨x.toText, ?_⟩
    rw [key, if_pos (show x.isFinite from h)]
  | text t => exact ⟨t, rfl⟩
  | safe t => exact ⟨t, rfl⟩
  | undefined => exact ⟨_, rfl⟩
  | bool b => exact ⟨_, rfl⟩
  | _ => cases h

mutual

theorem exists_ofValue : ∀ (v : Value) (room : Nat), ¬ v.HasUnwritable → v.depth ≤ room →
    fits room v ∧ ∃ t, ofValue .compact v = .ok t
  | .undefined, _ => fun _ _ => ⟨rfl, _, rfl⟩
  | .bool _, _ => fun _ _ => ⟨rfl, _, rfl⟩
  | .text _, _ => fun _ _ => ⟨rfl, _, rfl⟩
  | .safe _, _ => fun _ _ => ⟨rfl, _, rfl⟩
  | .float x, _ => by
    intro _ _
    refine ⟨rfl, ?_⟩
    rw [ofValue]
    split
    · exact ⟨_, rfl⟩
    · exact ⟨_, rfl⟩
  | .int n, _ => by
    intro h _
    refine ⟨rfl, Text.ofInt n, ?_⟩
    rw [ofValue]
    exact integer_of_isWritable (Classical.byContradiction fun hn => h (.int hn))
  | .list items, room | .shared _ .list items, room | .tuple items, room => by
    intro h hdepth
    have hitems : ∀ v ∈ items, ¬ v.HasUnwritable := by
      intro v hv hu
      first
      | exact h (.list hv hu)
      | exact h (.shared hv hu)
      | exact h (.tuple hv hu)
    rw [Value.depth] at hdepth
    obtain ⟨hfits, texts, htexts⟩ := exists_ofItems items (room - 1) hitems (by omega)
    refine ⟨?_, ['['] ++ Text.join [','] texts ++ [']'], ?_⟩
    · rw [fits, Bool.and_eq_true, decide_eq_true_iff]
      exact ⟨by omega, hfits⟩
    · rw [ofValue, htexts]
      rfl
  | .dict entries, room => by
    intro h hdepth
    rw [Value.depth] at hdepth
    have hnames : ∀ e ∈ entries, e.1.isName :=
      fun e he => Classical.byContradiction fun hname => h (.name he hname)
    obtain ⟨hfits, texts, htexts⟩ := exists_ofEntries entries (room - 1) hnames
      (fun e he hu => h (.value he hu)) (by omega)
    refine ⟨?_, ['{'] ++ Text.join [','] texts ++ ['}'], ?_⟩
    · rw [fits, Bool.and_eq_true, decide_eq_true_iff]
      exact ⟨by omega, hfits⟩
    · rw [ofValue, htexts]
      rfl
  | .itself, _ => fun h _ => absurd .itself h
  | .bytes _, _ | .set _, _ | .shared _ .set _, _ | .range _ _ _, _ | .view _, _
  | .object _ _ _ _, _ | .routine _ _ _, _ | .method _ _, _ | .cursor _ _, _ =>
    fun h _ => absurd (.foreign rfl) h

theorem exists_ofItems : ∀ (items : List Value) (room : Nat), (∀ v ∈ items, ¬ v.HasUnwritable) →
    Value.depthAll items ≤ room →
    allFit room items ∧ ∃ texts, ofItems .compact items = .ok texts
  | [], _ => fun _ _ => ⟨rfl, _, rfl⟩
  | v :: rest, room => by
    intro h hdepth
    rw [Value.depthAll, Nat.max_le] at hdepth
    obtain ⟨hfirst, first, htext⟩ := exists_ofValue v room (h v List.mem_cons_self) hdepth.1
    obtain ⟨hrest, others, hothers⟩ :=
      exists_ofItems rest room (fun u hu => h u (List.mem_cons_of_mem v hu)) hdepth.2
    refine ⟨by rw [allFit, hfirst, hrest, Bool.and_self], first :: others, ?_⟩
    rw [ofItems, htext, hothers]
    rfl

theorem exists_ofEntries : ∀ (entries : List (Value × Value)) (room : Nat),
    (∀ e ∈ entries, e.1.isName) → (∀ e ∈ entries, ¬ e.2.HasUnwritable) →
    Value.depthEntries entries ≤ room →
    entriesFit room entries ∧ ∃ texts, ofEntries .compact entries = .ok texts
  | [], _ => fun _ _ _ => ⟨rfl, _, rfl⟩
  | (k, v) :: rest, room => by
    intro hnames hvalues hdepth
    rw [Value.depthEntries, Nat.max_le] at hdepth
    obtain ⟨name, hname⟩ := exists_key_of_isName (hnames _ List.mem_cons_self)
    obtain ⟨hfirst, first, htext⟩ :=
      exists_ofValue v room (hvalues _ List.mem_cons_self) hdepth.1
    obtain ⟨hrest, others, hothers⟩ := exists_ofEntries rest room
      (fun e he => hnames e (List.mem_cons_of_mem _ he))
      (fun e he => hvalues e (List.mem_cons_of_mem _ he)) hdepth.2
    refine ⟨by rw [entriesFit, hfirst, hrest, Bool.and_self],
      (string false name ++ [':'] ++ first) :: others, ?_⟩
    rw [ofEntries, hname, htext, hothers]
    rfl

end

/-- A value has a compact text if and only if each part of it has one and there is room for its
depth. -/
theorem exists_compact_iff {v : Value} {room : Nat} :
    (∃ t, compact room v = .ok t) ↔ ¬ v.HasUnwritable ∧ v.depth ≤ room := by
  constructor
  · rintro ⟨t, ht⟩
    unfold compact at ht
    split at ht
    · rename_i hfits
      exact ⟨fun h => not_ofValue_of_hasUnwritable h t ht, depth_le_of_fits v room hfits⟩
    · cases ht
  · rintro ⟨h, hdepth⟩
    obtain ⟨hfits, htext⟩ := exists_ofValue v room h hdepth
    rwa [compact, if_pos hfits]

theorem isName_of_text {k : Value} (h : k.text?.isSome) : k.isName := by
  cases k with
  | text t => rfl
  | safe t => rfl
  | _ => cases h

/-- Data has no part without a text. -/
theorem not_hasUnwritable_of_isData {v : Value} (h : v.IsData) : ¬ v.HasUnwritable := by
  induction h with
  | undefined => rintro ⟨⟩; contradiction
  | bool b => rintro ⟨⟩; contradiction
  | text t => rintro ⟨⟩; contradiction
  | safe t => rintro ⟨⟩; contradiction
  | notFinite hx => rintro ⟨⟩; contradiction
  | int hn =>
    intro hu
    cases hu with
    | foreign hforeign => cases hforeign
    | int hlong => exact hlong hn
  | list hitems ih =>
    intro hu
    cases hu with
    | foreign hforeign => cases hforeign
    | list hv hu => exact ih _ hv hu
  | tuple hitems ih =>
    intro hu
    cases hu with
    | foreign hforeign => cases hforeign
    | tuple hv hu => exact ih _ hv hu
  | dict hkeys hvalues ih =>
    intro hu
    cases hu with
    | foreign hforeign => cases hforeign
    | name he hname => exact hname (isName_of_text (hkeys _ he))
    | value he hu => exact ih _ he hu

end Json
end Stencil
