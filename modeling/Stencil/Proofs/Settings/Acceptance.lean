import Stencil.Settings.Loader
import Stencil.Proofs.Fault.Told
import Mathlib.Logic.Basic

/-!
# Which settings are accepted

A check of the data of a configuration comes to an end exactly if the remarks that it would make can
be written: an unknown key, a wrong level and a wrong layout stand in their remarks as texts, which
an integer with too many digits does not have, and a layout that can change is not looked for among
the names of layouts at all. A check that comes to an end finds an error exactly if the data is
faulty. So a loader accepts such data unless it is faulty, and then raises the fault for an invalid
configuration and stays as it was; every other failure is no fault.
-/

set_option autoImplicit false

namespace Stencil

namespace Settings

/-! ## Steps that succeed under a condition -/

section Conditions

variable {α β : Type} {told told' : Prop} {post post' : α → Prop} {r : Except Failure α}

/-- A step succeeds exactly under a condition, with a result that has a property, and fails
otherwise, but not with a fault. -/
inductive SucceedsIf (told : Prop) (post : α → Prop) : Except Failure α → Prop where
  | ok {a : α} : told → post a → SucceedsIf told post (.ok a)
  | error {e : Failure} : ¬ told → e.code? = none → SucceedsIf told post (.error e)

namespace SucceedsIf

theorem pure {a : α} (h : post a) : SucceedsIf True post (.ok a) := .ok trivial h

theorem mono (h : SucceedsIf told post r) (htold : told ↔ told') (hpost : ∀ a, post a → post' a) :
    SucceedsIf told' post' r := by
  cases h with
  | ok ht ha => exact .ok (htold.1 ht) (hpost _ ha)
  | error ht he => exact .error (fun ht' => ht (htold.2 ht')) he

/-- Two steps in a row succeed under both their conditions. -/
theorem bind {after : β → Prop} {f : α → Except Failure β} (h : SucceedsIf told post r)
    (hf : ∀ a, post a → SucceedsIf told' after (f a)) :
    SucceedsIf (told ∧ told') after (r >>= f) := by
  cases h with
  | error ht he => exact .error (fun h => ht h.1) he
  | ok ht ha => exact (hf _ ha).mono ⟨fun ht' => ⟨ht, ht'⟩, And.right⟩ fun _ => id

/-- A step after one that always goes well with some result. -/
theorem map {after : β → Prop} {f : α → β} (h : SucceedsIf told post r)
    (hf : ∀ a, post a → after (f a)) : SucceedsIf told after (r >>= fun a => .ok (f a)) :=
  (h.bind fun a ha => .pure (hf a ha)).mono (and_iff_left trivial) fun _ => id

theorem exists_ok (h : SucceedsIf told post r) (ht : told) : ∃ a, r = .ok a ∧ post a := by
  cases h with
  | ok _ ha => exact ⟨_, rfl, ha⟩
  | error hnot => exact absurd ht hnot

theorem exists_error (h : SucceedsIf told post r) (ht : ¬ told) :
    ∃ e, r = .error e ∧ e.code? = none := by
  cases h with
  | ok htold => exact absurd htold ht
  | error _ he => exact ⟨_, rfl, he⟩

end SucceedsIf

end Conditions

/-! ## Remarks -/

variable {codecs : Codecs} {data logging : SettingsData} {key : Text} {v : Value}
  {p : Value → Prop}

/-- There is a value under a key, and it has a property. -/
def Has (data : SettingsData) (key : Text) (p : Value → Prop) : Prop :=
  ∃ v, Value.lookupName key data = some v ∧ p v

theorem has_of_some (h : Value.lookupName key data = some v) : Has data key p ↔ p v := by
  refine ⟨?_, fun hp => ⟨v, h, hp⟩⟩
  rintro ⟨w, hw, hp⟩
  rw [h] at hw
  cases hw
  exact hp

theorem not_has_of_none (h : Value.lookupName key data = none) : ¬ Has data key p := by
  rintro ⟨w, hw, -⟩
  rw [h] at hw
  cases hw

/-- Some remarks are made exactly if something is wrong. -/
def Finds (wrong : Prop) (remarks : List Remark) : Prop := remarks = [] ↔ ¬ wrong

theorem finds_nil {wrong : Prop} (h : ¬ wrong) : Finds wrong [] := iff_of_true rfl h

theorem finds_one {wrong : Prop} (h : wrong) (r : Remark) : Finds wrong [r] :=
  iff_of_false (List.cons_ne_nil _ _) (not_not.2 h)

theorem Finds.append {wrong wrong' : Prop} {remarks remarks' : List Remark}
    (h : Finds wrong remarks) (h' : Finds wrong' remarks') :
    Finds (wrong ∨ wrong') (remarks ++ remarks') := by
  unfold Finds at *
  rw [List.append_eq_nil_iff, h, h', not_or]

theorem shown_succeeds (v : Value) : SucceedsIf (v.plain? ≠ none) (fun _ => True) (shown v) := by
  unfold shown
  cases hplain : v.plain? with
  | none => exact .error (not_not.2 rfl) rfl
  | some t => exact .ok (Option.some_ne_none t) trivial

/-- Warnings are about the unknown keys, in their order. -/
theorem unknownKeys_succeeds (data : SettingsData) :
    SucceedsIf (∀ entry ∈ data, isKnown entry.1 = false → entry.1.plain? ≠ none)
      (fun warnings => warnings.map Remark.key = (data.map Prod.fst).filter fun k => !isKnown k)
      (unknownKeys data) := by
  induction data with
  | nil => exact .ok (by simp) rfl
  | cons entry rest ih =>
    obtain ⟨k, v⟩ := entry
    unfold unknownKeys
    cases hknown : isKnown k with
    | true =>
      refine ih.mono ?_ fun warnings h => ?_
      · simp [hknown]
      · simpa [hknown] using h
    | false =>
      have hrest : ∀ name : Text, SucceedsIf
          (∀ entry ∈ rest, isKnown entry.1 = false → entry.1.plain? ≠ none)
          (fun warnings => warnings.map Remark.key =
            (((k, v) :: rest).map Prod.fst).filter fun k => !isKnown k)
          (unknownKeys rest >>= fun others =>
            .ok (⟨k, "Unknown configuration key: ".toList ++ name⟩ :: others)) :=
        fun name => ih.map fun others h => by simp [hknown, h]
      exact ((shown_succeeds k).bind fun name _ => hrest name).mono (by simp [hknown]) fun _ => id

theorem notText_finds (data : SettingsData) (key : Text) :
    Finds (Has data key fun v => v.text? = none) (notText data key) := by
  unfold notText
  cases hlookup : Value.lookupName key data with
  | none => exact finds_nil (not_has_of_none hlookup)
  | some v =>
    simp only
    cases htext : v.text? with
    | none => exact finds_one ((has_of_some hlookup).2 htext) _
    | some t => exact finds_nil (by simp [has_of_some hlookup, htext])

/-- A value that names an encoding that does not exist. -/
def NamesNoEncoding (codecs : Codecs) (v : Value) : Prop :=
  ∃ t, v.text? = some t ∧ codecs.knows t = false

/-- No name of an encoding holds the character that keeps encodings from being looked up. -/
def Askable (data : SettingsData) : Prop :=
  ∀ v t, Value.lookupName encodingKey data = some v → v.text? = some t → '\x00' ∉ t

theorem unknownEncoding_succeeds (h : Askable data) :
    SucceedsIf True (Finds (Has data encodingKey (NamesNoEncoding codecs)))
      (unknownEncoding codecs data) := by
  unfold unknownEncoding
  cases hlookup : Value.lookupName encodingKey data with
  | none => exact .pure (finds_nil (not_has_of_none hlookup))
  | some v =>
    rw [Option.bind_some]
    cases htext : v.text? with
    | none => exact .pure (finds_nil (by simp [has_of_some hlookup, NamesNoEncoding, htext]))
    | some t =>
      have hnul : t.contains '\x00' = false := by simpa using h v t hlookup htext
      simp only [hnul, Bool.false_eq_true, if_false]
      cases hname : codecs.knows t with
      | false => exact .pure (finds_one ((has_of_some hlookup).2 ⟨t, htext, hname⟩) _)
      | true =>
        exact .pure (finds_nil (by simp [has_of_some hlookup, NamesNoEncoding, htext, hname]))

/-- A value that is no text that names a level in any case. -/
def NamesNoLevel (v : Value) : Prop := ∀ t, v.text? = some t → Text.upper t ∉ levelNames

/-- A value that is none of the texts that name a layout. -/
def NamesNoLayout (v : Value) : Prop := ∀ layout : LogLayout, v.text? ≠ some layout.name

theorem isLevel_eq_false_iff : isLevel v = false ↔ NamesNoLevel v := by
  unfold isLevel NamesNoLevel
  cases v.text? <;> simp

theorem layoutOf?_eq_none_iff : layoutOf? v = none ↔ NamesNoLayout v := by
  have hall : ∀ layout : LogLayout, layout ∈ LogLayout.all := by
    intro layout
    cases layout <;> decide
  unfold layoutOf? NamesNoLayout LogLayout.ofName?
  cases v.text? with
  | none => simp
  | some t =>
    rw [Option.bind_some, List.find?_eq_none]
    refine ⟨fun h layout heq => ?_, fun h layout _ heq => ?_⟩
    · cases heq
      exact h layout (hall layout) (beq_self_eq_true _)
    · exact h layout (congrArg some (beq_iff_eq.1 heq).symm)

/-- A wrong level has to have a text. -/
def LevelTold (logging : SettingsData) : Prop :=
  ¬ Has logging levelKey fun v => NamesNoLevel v ∧ v.plain? = none

/-- A layout has to be one that is looked for, and a wrong one has to have a text. -/
def LayoutTold (logging : SettingsData) : Prop :=
  ¬ Has logging layoutKey fun v => isComparable v = false ∨ NamesNoLayout v ∧ v.plain? = none

theorem unknownLevel_succeeds (logging : SettingsData) :
    SucceedsIf (LevelTold logging) (Finds (Has logging levelKey NamesNoLevel))
      (unknownLevel logging) := by
  unfold unknownLevel LevelTold
  cases hlookup : Value.lookupName levelKey logging with
  | none => exact .ok (not_has_of_none hlookup) (finds_nil (not_has_of_none hlookup))
  | some v =>
    simp only [has_of_some hlookup, ← isLevel_eq_false_iff]
    cases hlevel : isLevel v with
    | true => exact .ok (by simp) (finds_nil (by simp))
    | false =>
      exact ((shown_succeeds v).map (fun _ _ => finds_one rfl _)).mono (by simp) fun _ => id

theorem unknownLayout_succeeds (logging : SettingsData) :
    SucceedsIf (LayoutTold logging) (Finds (Has logging layoutKey NamesNoLayout))
      (unknownLayout logging) := by
  unfold unknownLayout LayoutTold
  cases hlookup : Value.lookupName layoutKey logging with
  | none => exact .ok (not_has_of_none hlookup) (finds_nil (not_has_of_none hlookup))
  | some v =>
    simp only [has_of_some hlookup, ← layoutOf?_eq_none_iff]
    cases hcomparable : isComparable v with
    | false => exact .error (by simp) rfl
    | true =>
      cases hlayout : layoutOf? v with
      | some layout => exact .ok (by simp) (finds_nil (by simp))
      | none =>
        exact ((shown_succeeds v).map (fun _ _ => finds_one rfl _)).mono (by simp) fun _ => id

/-- There is a section about logging, and it has a property. -/
def HasLogging (data : SettingsData) (p : SettingsData → Prop) : Prop :=
  Has data loggingKey fun v => ∃ logging, v = .dict logging ∧ p logging

/-- What makes data unfit for settings where some encodings are known. -/
inductive Faulty (codecs : Codecs) (data : SettingsData) : Prop where
  | directory : Has data directoryKey (fun v => v.text? = none) → Faulty codecs data
  | encoding : Has data encodingKey (fun v => v.text? = none) → Faulty codecs data
  | unknownEncoding : Has data encodingKey (NamesNoEncoding codecs) → Faulty codecs data
  | logging : Has data loggingKey (fun v => ∀ logging, v ≠ .dict logging) → Faulty codecs data
  | level : HasLogging data (fun logging => Has logging levelKey NamesNoLevel) → Faulty codecs data
  | layout : HasLogging data (fun logging => Has logging layoutKey NamesNoLayout) →
      Faulty codecs data

/-- Data about which every remark can be written. -/
structure Tellable (data : SettingsData) : Prop where
  keys : ∀ entry ∈ data, isKnown entry.1 = false → entry.1.plain? ≠ none
  level : ¬ HasLogging data fun logging => ¬ LevelTold logging
  layout : ¬ HasLogging data fun logging => ¬ LayoutTold logging

theorem hasLogging_of_dict {p : SettingsData → Prop}
    (h : Value.lookupName loggingKey data = some (.dict logging)) :
    HasLogging data p ↔ p logging := by
  unfold HasLogging
  rw [has_of_some h]
  exact ⟨fun ⟨_, heq, hp⟩ => by cases heq; exact hp, fun hp => ⟨logging, rfl, hp⟩⟩

theorem loggingErrors_succeeds (data : SettingsData) :
    SucceedsIf (¬ HasLogging data (fun logging => ¬ LevelTold logging) ∧
        ¬ HasLogging data fun logging => ¬ LayoutTold logging)
      (Finds (Has data loggingKey (fun v => ∀ logging, v ≠ .dict logging) ∨
        HasLogging data (fun logging => Has logging levelKey NamesNoLevel) ∨
        HasLogging data fun logging => Has logging layoutKey NamesNoLayout))
      (loggingErrors data) := by
  unfold loggingErrors
  split
  · rename_i hnone
    have habsent : ∀ p, ¬ HasLogging data p := fun p => not_has_of_none hnone
    exact .ok ⟨habsent _, habsent _⟩ (finds_nil (by simp [habsent, not_has_of_none hnone]))
  · rename_i logging hdict
    simp only [hasLogging_of_dict hdict, has_of_some hdict, not_not]
    refine ((unknownLevel_succeeds logging).bind fun level hlevel =>
      (unknownLayout_succeeds logging).map fun layout hlayout =>
        hlevel.append hlayout).mono Iff.rfl fun remarks h => ?_
    simpa [Finds] using h
  · rename_i v hother hsome
    have habsent : ∀ p, ¬ HasLogging data p := by
      rintro p ⟨w, hw, logging, rfl, -⟩
      rw [hsome] at hw
      cases hw
      exact hother logging rfl
    have hwrong : Has data loggingKey fun v => ∀ logging, v ≠ .dict logging :=
      ⟨v, hsome, fun logging heq => hother logging heq⟩
    exact .ok ⟨habsent _, habsent _⟩ (finds_one (.inl hwrong) _)

theorem faulty_iff : Faulty codecs data ↔
    ((Has data directoryKey (fun v => v.text? = none) ∨
      Has data encodingKey fun v => v.text? = none) ∨
        Has data encodingKey (NamesNoEncoding codecs)) ∨
    Has data loggingKey (fun v => ∀ logging, v ≠ .dict logging) ∨
      HasLogging data (fun logging => Has logging levelKey NamesNoLevel) ∨
      HasLogging data fun logging => Has logging layoutKey NamesNoLayout := by
  constructor
  · rintro (h | h | h | h | h | h)
    · exact .inl (.inl (.inl h))
    · exact .inl (.inl (.inr h))
    · exact .inl (.inr h)
    · exact .inr (.inl h)
    · exact .inr (.inr (.inl h))
    · exact .inr (.inr (.inr h))
  · rintro (((h | h) | h) | h | h | h)
    · exact .directory h
    · exact .encoding h
    · exact .unknownEncoding h
    · exact .logging h
    · exact .level h
    · exact .layout h

/-- What a check that succeeds says: its report is valid unless the data is faulty, and warns of the
unknown keys, in their order. -/
structure Reports (codecs : Codecs) (data : SettingsData) (report : Report) : Prop where
  valid_iff : report.valid = true ↔ ¬ Faulty codecs data
  warnings : report.warnings.map Remark.key = (data.map Prod.fst).filter fun k => !isKnown k

/-- A report that was made of all errors is valid unless there are some. -/
theorem reports_make {errors warnings : List Remark} (herrors : Finds (Faulty codecs data) errors)
    (hwarnings : warnings.map Remark.key = (data.map Prod.fst).filter fun k => !isKnown k) :
    Reports codecs data (.make true errors warnings) := by
  refine ⟨?_, hwarnings⟩
  unfold Finds at herrors
  rw [← herrors]
  simp [Report.make]

theorem check_succeeds (h : Askable data) :
    SucceedsIf (Tellable data) (Reports codecs data) (check codecs data) := by
  have htold : Tellable data ↔ (∀ entry ∈ data, isKnown entry.1 = false → entry.1.plain? ≠ none) ∧
      True ∧ ¬ HasLogging data (fun logging => ¬ LevelTold logging) ∧
        ¬ HasLogging data fun logging => ¬ LayoutTold logging :=
    ⟨fun ⟨hkeys, hlevel, hlayout⟩ => ⟨hkeys, trivial, hlevel, hlayout⟩,
      fun ⟨hkeys, _, hlevel, hlayout⟩ => ⟨hkeys, hlevel, hlayout⟩⟩
  have hsteps : SucceedsIf _ (Reports codecs data) (check codecs data) :=
    (unknownKeys_succeeds data).bind fun warnings hwarnings =>
      (unknownEncoding_succeeds h).bind fun encoding hencoding =>
        (loggingErrors_succeeds data).map fun logging hlogging => by
          refine reports_make ?_ hwarnings
          rw [faulty_iff]
          exact (((notText_finds data directoryKey).append
            (notText_finds data encodingKey)).append hencoding).append hlogging
  exact hsteps.mono htold.symm fun _ => id

theorem ofData_of_ok {report : Report} (h : check codecs data = .ok report) : ofData codecs data =
    if report.valid then .ok (ofChecked data) else refuse (refusal report.errors) := by
  unfold ofData
  rw [h]
  rfl

theorem ofData_of_error {e : Failure} (h : check codecs data = .error e) :
    ofData codecs data = .error e := by
  unfold ofData
  rw [h]
  rfl

theorem exists_refusal (reason : Text) : ∃ f : Fault, f.code = invalidCode ∧
    (refuse reason : Except Failure Settings) = .error (.fault f) := by
  obtain ⟨w, hw⟩ : ∃ w, Registry.builtin.find? invalidCode = some w := ⟨_, rfl⟩
  have hplain : ∀ entry ∈ [("detail".toList, Value.text reason)], entry.2.plain? ≠ none := by
    intro entry hentry
    obtain rfl := List.mem_singleton.1 hentry
    exact Option.some_ne_none _
  obtain ⟨f, hraise, htells⟩ := Registry.exists_raise (α := Settings) hw hplain
  exact ⟨f, htells.code.trans (Registry.code_of_find? hw), hraise⟩

end Settings

namespace SettingsLoader

open Settings

/-- A check of data comes to an end exactly if all its remarks can be written. Then its report is
valid unless the data is faulty, whatever keys are unknown, and a loader accepts the data and keeps
the settings, or raises the fault for an invalid configuration and stays as it was. Otherwise both
end with the same failure, which is no fault. -/
theorem loadData_unless_faulty (l : SettingsLoader) (codecs : Codecs) (data : SettingsData)
    (path : Option Text) (h : Askable data) :
    (Tellable data → ∃ report, check codecs data = .ok report ∧ Reports codecs data report ∧
      (¬ Faulty codecs data → l.loadData codecs data path =
        (.ok (ofChecked data), ⟨some ⟨ofChecked data, path⟩⟩)) ∧
      (Faulty codecs data → ∃ f : Fault, f.code = invalidCode ∧
        l.loadData codecs data path = (.error (.fault f), l))) ∧
    (¬ Tellable data → ∃ e, check codecs data = .error e ∧ e.code? = none ∧
      l.loadData codecs data path = (.error e, l)) := by
  have hcheck : SucceedsIf _ (Reports codecs data) (check codecs data) := check_succeeds h
  constructor
  · intro htellable
    obtain ⟨report, hreport, hreports⟩ := hcheck.exists_ok htellable
    refine ⟨report, hreport, hreports, fun hfine => ?_, fun hfaulty => ?_⟩
    · unfold loadData
      rw [ofData_of_ok hreport, if_pos (hreports.valid_iff.2 hfine)]
      rfl
    · have hvalid : ¬ report.valid = true := fun hvalid => hreports.valid_iff.1 hvalid hfaulty
      obtain ⟨f, hcode, hrefuse⟩ := exists_refusal (refusal report.errors)
      refine ⟨f, hcode, ?_⟩
      unfold loadData
      rw [ofData_of_ok hreport, if_neg hvalid, hrefuse]
      rfl
  · intro htellable
    obtain ⟨e, herror, hcode⟩ := hcheck.exists_error htellable
    refine ⟨e, herror, hcode, ?_⟩
    unfold loadData
    rw [ofData_of_error herror]
    rfl

/-- Data with an unknown key and a level that does not exist, which is refused for the level. -/
theorem loadData_unless_faulty_level :
    let data : SettingsData := [(.text "level".toList, .text "INFO".toList),
      (.text encodingKey, .text "utf-8".toList),
      (.text loggingKey, .dict [(.text levelKey, .text "loud".toList)])]
    Askable data ∧ ∃ f : Fault, f.code = invalidCode ∧
      SettingsLoader.new.loadData Encoding.codecs data none = (.error (.fault f), .new) := by
  intro data
  have haskable : Askable data := by
    intro v t hv ht
    cases hv
    cases ht
    decide
  have hlogging : Value.lookupName loggingKey data =
      some (.dict [(.text levelKey, .text "loud".toList)]) := rfl
  have htellable : Tellable data := by
    refine ⟨fun entry hentry _ => ?_, ?_, ?_⟩
    · simp only [data, List.mem_cons, List.not_mem_nil, or_false] at hentry
      rcases hentry with rfl | rfl | rfl <;> exact Option.some_ne_none _
    · rw [hasLogging_of_dict hlogging, not_not]
      rintro ⟨v, hv, -, hplain⟩
      cases hv
      cases hplain
    · rw [hasLogging_of_dict hlogging, not_not]
      exact not_has_of_none rfl
  have hfaulty : Faulty Encoding.codecs data :=
    .level ((hasLogging_of_dict hlogging).2 ⟨_, rfl, isLevel_eq_false_iff.1 (by decide)⟩)
  obtain ⟨report, -, -, -, hrefused⟩ :=
    (loadData_unless_faulty .new Encoding.codecs data none haskable).1 htellable
  exact ⟨haskable, hrefused hfaulty⟩

/-- A layout that can change is not looked for among the names of layouts, and has no remark. -/
example (codecs : Codecs) : check codecs
    [(.text loggingKey, .dict [(.text layoutKey, .list [.text "json".toList])])] =
      .error (.unfit "unhashable type: 'list'".toList) := by
  rfl

end SettingsLoader
end Stencil
