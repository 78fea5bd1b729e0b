import Stencil.Value.Truth
import Stencil.Proofs.Table.Lookup
import Stencil.Proofs.Value.Method

/-!
# Values that differ in private attributes

Two values are akin if they are built alike, the private attributes of the objects in them apart:
these may be there or not, have any values, and fail when they are read or not. A routine that reads
an attribute of its own object is akin to itself only if that attribute is public. All that can be
seen of a value without reading attributes, its kind, its size, its texts, what it compares to, how
it is sorted and what it is as a key, is the same for values that are akin, as they are now or as
they began.
-/

set_option autoImplicit false

namespace Stencil.Value

/-- The faults of the public attributes of an object. -/
def publicFaults (faults : List (Text × Raised)) : List (Text × Raised) :=
  faults.filter fun f => !isPrivate f.1

mutual

/-- Two values are equal but for private attributes of the objects in them. -/
inductive Akin : Value → Value → Prop where
  | atom {v : Value} : v.isAtom = true → Akin v v
  | list {vs ws : List Value} : AllAkin vs ws → Akin (.list vs) (.list ws)
  | tuple {vs ws : List Value} : AllAkin vs ws → Akin (.tuple vs) (.tuple ws)
  | set {vs ws : List Value} : AllAkin vs ws → Akin (.set vs) (.set ws)
  | shared (cell : Nat) (kind : Collection) {vs ws : List Value} : AllAkin vs ws →
      Akin (.shared cell kind vs) (.shared cell kind ws)
  | dict {es fs : List (Value × Value)} : EntriesAkin es fs → Akin (.dict es) (.dict fs)
  | view {es fs : List (Value × Value)} : EntriesAkin es fs → Akin (.view es) (.view fs)
  | object (identity : Nat) {as bs : List (Text × Value)} {fs gs : List (Text × Raised)}
      (shown : Text) : AttributesAkin as bs → publicFaults fs = publicFaults gs →
      Akin (.object identity as fs shown) (.object identity bs gs shown)
  | routine (identity : Nat) (arity : Option Nat) {a b : Routine Value} : ActionAkin a b →
      Akin (.routine identity arity a) (.routine identity arity b)
  | method {v w : Value} (name : Text) : Akin v w → Akin (.method v name) (.method w name)
  | cursor (cell : Nat) {vs ws : List Value} : AllAkin vs ws →
      Akin (.cursor cell vs) (.cursor cell ws)

/-- Two lists of values are akin one by one. -/
inductive AllAkin : List Value → List Value → Prop where
  | nil : AllAkin [] []
  | cons {v w : Value} {vs ws : List Value} : Akin v w → AllAkin vs ws →
      AllAkin (v :: vs) (w :: ws)

/-- Two mappings have entries that are akin one by one. -/
inductive EntriesAkin : List (Value × Value) → List (Value × Value) → Prop where
  | nil : EntriesAkin [] []
  | cons {k l v w : Value} {es fs : List (Value × Value)} : Akin k l → Akin v w →
      EntriesAkin es fs → EntriesAkin ((k, v) :: es) ((l, w) :: fs)

/-- Two lists of attributes are akin one by one, the private ones apart. -/
inductive AttributesAkin : List (Text × Value) → List (Text × Value) → Prop where
  | nil : AttributesAkin [] []
  | both (name : Text) {v w : Value} {as bs : List (Text × Value)} : Akin v w →
      AttributesAkin as bs → AttributesAkin ((name, v) :: as) ((name, w) :: bs)
  | left {name : Text} {v : Value} {as bs : List (Text × Value)} : isPrivate name = true →
      AttributesAkin as bs → AttributesAkin ((name, v) :: as) bs
  | right {name : Text} {w : Value} {as bs : List (Text × Value)} : isPrivate name = true →
      AttributesAkin as bs → AttributesAkin as ((name, w) :: bs)

/-- Two routines do the same with values that are akin, and read no private attribute. -/
inductive ActionAkin : Routine Value → Routine Value → Prop where
  | constant {v w : Value} : Akin v w → ActionAkin (.constant v) (.constant w)
  | failure (raised : Raised) : ActionAkin (.failure raised) (.failure raised)
  | counter (cell : Nat) (start : Int) : ActionAkin (.counter cell start) (.counter cell start)
  | ownAttribute (lead : Text) {name : Text} : isPrivate name = false →
      ActionAkin (.ownAttribute lead name) (.ownAttribute lead name)
  | labelled (lead : Text) {v w : Value} : Akin v w →
      ActionAkin (.labelled lead v) (.labelled lead w)

end

variable {v w : Value}

/-! ## What is seen of the kind of a value -/

namespace Akin

theorem typeName_eq (h : Akin v w) : v.typeName = w.typeName := by
  cases h <;> rfl

theorem text?_eq (h : Akin v w) : v.text? = w.text? := by
  cases h <;> rfl

theorem number?_eq (h : Akin v w) : v.number? = w.number? := by
  cases h <;> rfl

theorem keyNumber?_eq (h : Akin v w) : v.keyNumber? = w.keyNumber? := by
  cases h <;> rfl

theorem isSequence_eq (h : Akin v w) : v.isSequence = w.isSequence := by
  cases h with
  | shared cell kind _ => cases kind <;> rfl
  | _ => rfl

theorem isCallable_eq (h : Akin v w) : v.isCallable = w.isCallable := by
  cases h <;> rfl

theorem isTrue_eq (h : Akin v w) : v.isTrue = w.isTrue := by
  cases h <;> rfl

theorem not_undefined (h : Akin v w) (hv : v ≠ .undefined) : w ≠ .undefined := by
  cases h with
  | atom _ => exact hv
  | _ => nofun

end Akin

/-! ## Parts -/

theorem allAkin_iff {vs ws : List Value} : AllAkin vs ws ↔ List.Forall₂ Akin vs ws := by
  constructor
  · intro h
    induction vs generalizing ws with
    | nil =>
      cases h
      exact .nil
    | cons v vs ih =>
      cases h with
      | cons hv hrest => exact .cons hv (ih hrest)
  · intro h
    induction h with
    | nil => exact .nil
    | cons hv _ ih => exact .cons hv ih

theorem AllAkin.length_eq {vs ws : List Value} (h : AllAkin vs ws) : vs.length = ws.length :=
  (allAkin_iff.1 h).length_eq

theorem allAkin_refl {vs : List Value} (h : ∀ v ∈ vs, v.isAtom = true) : AllAkin vs vs := by
  induction vs with
  | nil => exact .nil
  | cons v vs ih =>
    exact .cons (.atom (h v List.mem_cons_self)) (ih fun u hu => h u (List.mem_cons_of_mem _ hu))

theorem EntriesAkin.forall₂ {es fs : List (Value × Value)} (h : EntriesAkin es fs) :
    List.Forall₂ (fun e f => Akin e.1 f.1 ∧ Akin e.2 f.2) es fs := by
  induction es generalizing fs with
  | nil =>
    cases h
    exact .nil
  | cons e es ih =>
    cases h with
    | cons hk hv hrest => exact .cons ⟨hk, hv⟩ (ih hrest)

theorem EntriesAkin.length_eq {es fs : List (Value × Value)} (h : EntriesAkin es fs) :
    es.length = fs.length :=
  h.forall₂.length_eq

theorem Akin.size?_eq (h : Akin v w) : v.size? = w.size? := by
  cases h with
  | atom _ => rfl
  | list h => exact congrArg some h.length_eq
  | tuple h => exact congrArg some h.length_eq
  | set h => exact congrArg some h.length_eq
  | shared cell kind h => exact congrArg some h.length_eq
  | dict h => exact congrArg some h.length_eq
  | view h => exact congrArg some h.length_eq
  | _ => rfl

theorem AllAkin.getElem? {vs ws : List Value} (h : AllAkin vs ws) (i : Nat) :
    Option.Rel Akin vs[i]? ws[i]? :=
  forall₂_getElem? (allAkin_iff.1 h) i

theorem isAtom_of_at? {i : Nat} (h : v.isAtom = true) (hat : v.at? i = some w) :
    w.isAtom = true := by
  unfold at? at hat
  split at hat
  · obtain ⟨c, -, rfl⟩ := Option.map_eq_some_iff.1 hat
    rfl
  · obtain ⟨c, -, rfl⟩ := Option.map_eq_some_iff.1 hat
    rfl
  · obtain ⟨o, -, rfl⟩ := Option.map_eq_some_iff.1 hat
    rfl
  · cases h
  · cases h
  · cases h
  · split at hat
    · cases hat
      rfl
    · cases hat
  · cases hat

theorem rel_refl {o : Option Value} (h : ∀ u, o = some u → Akin u u) : Option.Rel Akin o o := by
  cases o with
  | none => exact .none
  | some u => exact .some (h u rfl)

theorem Akin.at? (h : Akin v w) (i : Nat) : Option.Rel Akin (v.at? i) (w.at? i) := by
  cases h with
  | atom h => exact rel_refl fun u hu => .atom (isAtom_of_at? h hu)
  | list h => exact h.getElem? i
  | tuple h => exact h.getElem? i
  | shared cell kind h =>
    cases kind with
    | list => exact h.getElem? i
    | set => exact .none
  | _ => exact .none

theorem Akin.getD_undefined {o o' : Option Value} (h : Option.Rel Akin o o') :
    Akin (o.getD .undefined) (o'.getD .undefined) := by
  cases h with
  | some h => exact h
  | none => exact .atom rfl

theorem Akin.entries? (h : Akin v w) : Option.Rel EntriesAkin v.entries? w.entries? := by
  cases h with
  | @atom v h =>
    have hnone : v.entries? = none := by
      cases v with
      | dict _ => cases h
      | view _ => cases h
      | _ => rfl
    rw [hnone]
    exact .none
  | dict h => exact .some h
  | view h => exact .some h
  | _ => exact .none

/-! ## Keys -/

mutual

theorem Akin.isKey_eq {v w : Value} (h : Akin v w) : v.isKey = w.isKey := by
  match h with
  | .tuple h => exact h.allKeys_eq
  | .atom _ | .list _ | .set _ | .shared .. | .dict _ | .view _ | .object .. | .routine ..
  | .method .. | .cursor .. => rfl
termination_by structural h

theorem AllAkin.allKeys_eq {vs ws : List Value} (h : AllAkin vs ws) : allKeys vs = allKeys ws := by
  match h with
  | .nil => rfl
  | .cons hv hrest => rw [allKeys, allKeys, hv.isKey_eq, hrest.allKeys_eq]
termination_by structural h

end

variable {k l : Value}

theorem Akin.numbered_eq (hk : Akin k l) (h : Akin v w) : numbered k v = numbered l w := by
  rw [numbered, numbered, hk.keyNumber?_eq, h.keyNumber?_eq]

/-- A key without parts is compared by its number, its text, or as it stands. -/
theorem Akin.sameKey_of_isAtom (hk : k.isAtom = true) (h : Akin v w) :
    sameKey k v = sameKey k w := by
  have hnumbered := Akin.numbered_eq (.atom hk) h
  cases k with
  | bool b => rwa [sameKey, sameKey]
  | int n => rwa [sameKey, sameKey]
  | float x => rwa [sameKey, sameKey]
  | text t => rw [sameKey, sameKey, h.text?_eq]
  | safe t => rw [sameKey, sameKey, h.text?_eq]
  | undefined => cases h <;> rfl
  | bytes octets => cases h <;> rfl
  | range start stop step => cases h <;> rfl
  | itself => cases h <;> rfl
  | _ => cases hk

/-- A key with parts is the same as no value without parts. -/
theorem Akin.sameKey_atom (hk : Akin k l) (h : v.isAtom = true) : sameKey k v = sameKey l v := by
  cases hk with
  | atom _ => rfl
  | _ =>
    cases v with
    | list | tuple | set | shared | dict | view | object | routine | method | cursor => cases h
    | _ => rfl

/-- Whether values of a kind are compared as keys by their parts. -/
def comparesParts : Value → Bool
  | .tuple _ | .method _ _ => true
  | _ => false

theorem Akin.sameKey_of_shallow (hk : Akin k l) (hshallow : k.comparesParts = false)
    (h : Akin v w) : sameKey k v = sameKey l w := by
  have hwhole := h
  cases h with
  | atom h => exact Akin.sameKey_atom hk h
  | _ =>
    cases hk with
    | atom hk => exact Akin.sameKey_of_isAtom hk hwhole
    | tuple _ => cases hshallow
    | method _ _ => cases hshallow
    | _ => rfl

mutual

theorem Akin.sameKey_eq {k l v w : Value} (hk : Akin k l) (h : Akin v w) :
    sameKey k v = sameKey l w := by
  match hk with
  | .tuple hks =>
    cases h with
    | atom h => exact Akin.sameKey_atom (.tuple hks) h
    | tuple hvs => exact hks.sameKeys_eq hvs
    | _ => rfl
  | .method name hk =>
    cases h with
    | atom h => exact Akin.sameKey_atom (.method name hk) h
    | method name' hv => rw [sameKey, sameKey, hk.sameKey_eq hv]
    | _ => rfl
  | .atom hk => exact Akin.sameKey_of_isAtom hk h
  | .list hks => exact Akin.sameKey_of_shallow (.list hks) rfl h
  | .set hks => exact Akin.sameKey_of_shallow (.set hks) rfl h
  | .shared cell kind hks => exact Akin.sameKey_of_shallow (.shared cell kind hks) rfl h
  | .dict hks => exact Akin.sameKey_of_shallow (.dict hks) rfl h
  | .view hks => exact Akin.sameKey_of_shallow (.view hks) rfl h
  | .object i shown hattributes hfaults =>
    exact Akin.sameKey_of_shallow (.object i shown hattributes hfaults) rfl h
  | .routine i arity haction => exact Akin.sameKey_of_shallow (.routine i arity haction) rfl h
  | .cursor cell hks => exact Akin.sameKey_of_shallow (.cursor cell hks) rfl h
termination_by structural hk

theorem AllAkin.sameKeys_eq {ks ls vs ws : List Value} (hk : AllAkin ks ls) (h : AllAkin vs ws) :
    sameKeys ks vs = sameKeys ls ws := by
  match hk with
  | .nil => cases h <;> rfl
  | .cons hk hks =>
    cases h with
    | nil => rfl
    | cons hv hvs => rw [sameKeys, sameKeys, hk.sameKey_eq hv, hks.sameKeys_eq hvs]
termination_by structural hk

end

theorem EntriesAkin.lookup {es fs : List (Value × Value)} (h : EntriesAkin es fs)
    (hk : Akin k l) : Option.Rel Akin (Value.lookup k es) (Value.lookup l fs) := by
  induction es generalizing fs with
  | nil =>
    cases h
    exact .none
  | cons e es ih =>
    cases h with
    | cons hkey hvalue hrest =>
      rw [Value.lookup, Value.lookup, hkey.sameKey_eq hk]
      split
      · exact .some hvalue
      · exact ih hrest

/-! ## Texts -/

mutual

theorem Akin.quoted?_eq {v w : Value} (h : Akin v w) : v.quoted? = w.quoted? := by
  match h with
  | .atom _ | .object .. | .routine .. | .method .. | .cursor .. => rfl
  | .list h => rw [quoted?, quoted?, h.quotedAll?_eq]
  | .tuple h => rw [quoted?, quoted?, h.quotedAll?_eq]
  | .set h => rw [quoted?, quoted?, h.quotedAll?_eq]
  | .shared _ .list h => rw [quoted?, quoted?, h.quotedAll?_eq]
  | .shared _ .set h => rw [quoted?, quoted?, h.quotedAll?_eq]
  | .dict h => rw [quoted?, quoted?, h.quotedEntries?_eq]
  | .view h => rw [quoted?, quoted?, h.quotedEntries?_eq]
termination_by structural h

theorem AllAkin.quotedAll?_eq {vs ws : List Value} (h : AllAkin vs ws) :
    quotedAll? vs = quotedAll? ws := by
  match h with
  | .nil => rfl
  | .cons hv hrest => rw [quotedAll?, quotedAll?, hv.quoted?_eq, hrest.quotedAll?_eq]
termination_by structural h

theorem EntriesAkin.quotedEntries?_eq {es fs : List (Value × Value)} (h : EntriesAkin es fs) :
    quotedEntries? es = quotedEntries? fs := by
  match h with
  | .nil => rfl
  | .cons hk hv hrest =>
    rw [quotedEntries?, quotedEntries?, hk.quoted?_eq, hv.quoted?_eq, hrest.quotedEntries?_eq]
termination_by structural h

end

theorem Akin.plain?_eq (h : Akin v w) : v.plain? = w.plain? := by
  cases h with
  | atom _ => rfl
  | view h => rw [plain?, plain?, h.quotedEntries?_eq]
  | list h => exact (Akin.list h).quoted?_eq
  | tuple h => exact (Akin.tuple h).quoted?_eq
  | set h => exact (Akin.set h).quoted?_eq
  | shared cell kind h => exact (Akin.shared cell kind h).quoted?_eq
  | dict h => exact (Akin.dict h).quoted?_eq
  | _ => rfl

theorem Akin.output?_eq (h : Akin v w) : v.output? = w.output? := by
  have hplain := h.plain?_eq
  cases h with
  | atom _ => rfl
  | _ => exact hplain

theorem Akin.compare?_eq (h : Akin v w) (c : Comparison) (hk : Akin k l) :
    v.compare? c k = w.compare? c l := by
  rw [compare?, compare?, h.number?_eq, hk.number?_eq, h.output?_eq, hk.output?_eq]

/-! ## JSON -/

theorem Akin.jsonKey_eq (h : Akin v w) (s : JsonStyle) : Json.key s v = Json.key s w := by
  cases h <;> rfl

theorem Akin.foreign_eq (h : Akin v w) (s : JsonStyle) : Json.foreign s v = Json.foreign s w := by
  rw [Json.foreign, Json.foreign, h.plain?_eq, h.typeName_eq]

mutual

theorem Akin.ofValue_eq {v w : Value} (h : Akin v w) (s : JsonStyle) :
    Json.ofValue s v = Json.ofValue s w := by
  match h with
  | .atom _ => rfl
  | .list h => rw [Json.ofValue, Json.ofValue, h.ofItems_eq s]
  | .tuple h => rw [Json.ofValue, Json.ofValue, h.ofItems_eq s]
  | .dict h => rw [Json.ofValue, Json.ofValue, h.ofEntries_eq s]
  | .shared _ .list h => rw [Json.ofValue, Json.ofValue, h.ofItems_eq s]
  | .set h => exact (Akin.set h).foreign_eq s
  | .shared cell .set h => exact (Akin.shared cell .set h).foreign_eq s
  | .view h => exact (Akin.view h).foreign_eq s
  | .object _ _ _ _ | .routine _ _ _ | .method _ _ | .cursor _ _ => rfl
termination_by structural h

theorem AllAkin.ofItems_eq {vs ws : List Value} (h : AllAkin vs ws) (s : JsonStyle) :
    Json.ofItems s vs = Json.ofItems s ws := by
  match h with
  | .nil => rfl
  | .cons hv hrest => rw [Json.ofItems, Json.ofItems, hv.ofValue_eq s, hrest.ofItems_eq s]
termination_by structural h

theorem EntriesAkin.ofEntries_eq {es fs : List (Value × Value)} (h : EntriesAkin es fs)
    (s : JsonStyle) : Json.ofEntries s es = Json.ofEntries s fs := by
  match h with
  | .nil => rfl
  | .cons hk hv hrest =>
    rw [Json.ofEntries, Json.ofEntries, hk.jsonKey_eq s, hv.ofValue_eq s, hrest.ofEntries_eq s]
termination_by structural h

end

mutual

theorem Akin.fits_eq {v w : Value} (h : Akin v w) (room : Nat) :
    Json.fits room v = Json.fits room w := by
  match h with
  | .list h => rw [Json.fits, Json.fits, h.allFit_eq]
  | .tuple h => rw [Json.fits, Json.fits, h.allFit_eq]
  | .shared _ .list h => rw [Json.fits, Json.fits, h.allFit_eq]
  | .dict h => rw [Json.fits, Json.fits, h.entriesFit_eq]
  | .atom _ | .set _ | .shared _ .set _ | .view _ | .object .. | .routine .. | .method ..
  | .cursor .. => rfl
termination_by structural h

theorem AllAkin.allFit_eq {vs ws : List Value} (h : AllAkin vs ws) (room : Nat) :
    Json.allFit room vs = Json.allFit room ws := by
  match h with
  | .nil => rfl
  | .cons hv hrest => rw [Json.allFit, Json.allFit, hv.fits_eq, hrest.allFit_eq]
termination_by structural h

theorem EntriesAkin.entriesFit_eq {es fs : List (Value × Value)} (h : EntriesAkin es fs)
    (room : Nat) : Json.entriesFit room es = Json.entriesFit room fs := by
  match h with
  | .nil => rfl
  | .cons _ hv hrest => rw [Json.entriesFit, Json.entriesFit, hv.fits_eq, hrest.entriesFit_eq]
termination_by structural h

end

theorem Akin.compact_eq (h : Akin v w) (room : Nat) :
    Json.compact room v = Json.compact room w := by
  rw [Json.compact, Json.compact, h.fits_eq, h.ofValue_eq]

/-! ## Order -/

mutual

theorem Akin.rank_eq {v w : Value} (h : Akin v w) : v.rank = w.rank := by
  match h with
  | .list h => rw [rank, rank, h.ranks_eq]
  | .tuple h => rw [rank, rank, h.ranks_eq]
  | .set h => rw [rank, rank, h.ranks_eq]
  | .shared _ .list h => rw [rank, rank, h.ranks_eq]
  | .shared _ .set h => rw [rank, rank, h.ranks_eq]
  | .dict h => rw [rank, rank, h.entryRanks_eq]
  | .view h => rw [rank, rank, h.entryRanks_eq]
  | .atom _ | .object .. | .routine .. | .method .. | .cursor .. => rfl
termination_by structural h

theorem AllAkin.ranks_eq {vs ws : List Value} (h : AllAkin vs ws) : ranks vs = ranks ws := by
  match h with
  | .nil => rfl
  | .cons hv hrest => rw [ranks, ranks, hv.rank_eq, hrest.ranks_eq]
termination_by structural h

theorem EntriesAkin.entryRanks_eq {es fs : List (Value × Value)} (h : EntriesAkin es fs) :
    entryRanks es = entryRanks fs := by
  match h with
  | .nil => rfl
  | .cons hk hv hrest =>
    rw [entryRanks, entryRanks, hk.rank_eq, hv.rank_eq, hrest.entryRanks_eq]
termination_by structural h

end

/-! ## Values as they are now -/

theorem AllAkin.left {vs ws : List Value} (h : AllAkin vs ws) (c : Cells) (cell : Nat) :
    AllAkin (c.left cell vs) (c.left cell ws) :=
  allAkin_iff.2 (Cells.forall₂_left (allAkin_iff.1 h) c cell)

theorem Akin.hold (kind : Collection) {vs ws : List Value} (h : AllAkin vs ws) :
    Akin (kind.hold vs) (kind.hold ws) := by
  cases kind with
  | list => exact .list h
  | set => exact .set h

/-- An element that is the list again is so in both lists. -/
theorem Akin.tied (h : Akin v w) (hk : Akin k l) : Akin (Value.tied v k) (Value.tied w l) := by
  have hwhole := hk
  cases hk with
  | @atom k _ =>
    cases k with
    | itself => exact h
    | _ => exact hwhole
  | _ => exact hwhole

theorem AllAkin.map_tied {vs ws : List Value} (h : Akin v w) (hall : AllAkin vs ws) :
    AllAkin (vs.map (Value.tied v)) (ws.map (Value.tied w)) := by
  rw [allAkin_iff, List.forall₂_map_left_iff, List.forall₂_map_right_iff]
  exact (allAkin_iff.1 hall).imp fun _ _ hk => h.tied hk

theorem Akin.opened (h : Akin v w) (c : Cells) : Akin (v.opened c) (w.opened c) := by
  have hwhole := h
  cases h with
  | @atom v hatom =>
    cases v with
    | shared => cases hatom
    | _ => exact hwhole
  | shared cell kind h => exact .hold kind (.map_tied hwhole (h.left c cell))
  | _ => exact hwhole

theorem now_of_isAtom (h : v.isAtom = true) (c : Cells) : v.now c = v := by
  cases v with
  | list | tuple | set | shared | dict | view | object | routine | method | cursor => cases h
  | _ => rfl

mutual

theorem Akin.now {v w : Value} (h : Akin v w) (c : Cells) : Akin (v.now c) (w.now c) := by
  match h with
  | .atom hatom =>
    rw [now_of_isAtom hatom]
    exact .atom hatom
  | .list h => exact .list (h.allNow c)
  | .tuple h => exact .tuple (h.allNow c)
  | .set h => exact .set (h.allNow c)
  | .shared cell kind h => exact .hold kind ((h.allNow c).left c cell)
  | .dict h => exact .dict (h.entriesNow c)
  | .view h => exact .view (h.entriesNow c)
  | .object i shown hattributes hfaults => exact .object i shown hattributes hfaults
  | .routine i arity haction => exact .routine i arity haction
  | .method name h => exact .method name h
  | .cursor cell h => exact .cursor cell h
termination_by structural h

theorem AllAkin.allNow {vs ws : List Value} (h : AllAkin vs ws) (c : Cells) :
    AllAkin (Value.allNow vs c) (Value.allNow ws c) := by
  match h with
  | .nil => exact .nil
  | .cons hv hrest => exact .cons (hv.now c) (hrest.allNow c)
termination_by structural h

theorem EntriesAkin.entriesNow {es fs : List (Value × Value)} (h : EntriesAkin es fs)
    (c : Cells) : EntriesAkin (Value.entriesNow es c) (Value.entriesNow fs c) := by
  match h with
  | .nil => exact .nil
  | .cons hk hv hrest => exact .cons hk (hv.now c) (hrest.entriesNow c)
termination_by structural h

end

end Stencil.Value
