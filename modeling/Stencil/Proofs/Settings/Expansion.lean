import Mathlib.Data.List.Forall2
import Stencil.Settings.Environment
import Stencil.Proofs.Fault.Missing
import Stencil.Proofs.Text.Blank

/-!
# What references expand to

A reference is a name between its marks, with a default or a message or neither. Every text has one
cut into references and other characters: a reference stands where one can be read, from left to
right, and every other character stands for itself. A text is filled with what its pieces stand for,
which is not read again; if a reference stands for nothing, the first such reference is reported. A
value is filled at its texts, at any depth of lists and dictionaries, and fails exactly if something
in it fails.
-/

set_option autoImplicit false

namespace Stencil

open Text (Stops)

/-! ## References as they are written -/

/-- The default or the message of a reference. -/
def Fallback.argument : Fallback → Text
  | .none => []
  | .default value => value
  | .message text => text

namespace Reference

variable {t after : Text} {f : Fallback} {r : Reference}

/-- A reference whose name and whose default or message can stand between the marks. -/
structure Proper (r : Reference) : Prop where
  named : r.name ≠ []
  name : ∀ c ∈ r.name, c ≠ '}' ∧ c ≠ ':'
  argument : '}' ∉ r.fallback.argument

theorem isNameChar_iff {c : Char} : isNameChar c = true ↔ c ≠ '}' ∧ c ≠ ':' := by
  simp [isNameChar]

theorem isArgumentChar_iff {c : Char} : isArgumentChar c = true ↔ c ≠ '}' := by
  simp [isArgumentChar]

theorem stops_writtenFallback (f : Fallback) (after : Text) :
    Stops isNameChar (writtenFallback f ++ '}' :: after) := by
  cases f <;> exact Text.stops_cons.2 rfl

/-- An argument is read up to the brace that closes the reference. -/
theorem dropWhile_argument {value : Text} (h : '}' ∉ value) (after : Text) :
    (value ++ '}' :: after).dropWhile isArgumentChar = '}' :: after ∧
      (value ++ '}' :: after).takeWhile isArgumentChar = value := by
  have hvalue : ∀ c ∈ value, isArgumentChar c = true := by
    intro c hc
    rw [isArgumentChar_iff]
    rintro rfl
    exact h hc
  have hstops : Stops isArgumentChar ('}' :: after) := Text.stops_cons.2 rfl
  exact ⟨Text.dropWhile_append_of_stops hvalue hstops, Text.takeWhile_append_of_stops hvalue hstops⟩

theorem fallback?_written (h : '}' ∉ f.argument) (after : Text) :
    fallback? (writtenFallback f ++ '}' :: after) = some (f, after) := by
  cases f with
  | none => rfl
  | default value =>
    have h : '}' ∉ value := h
    obtain ⟨hdrop, htake⟩ := dropWhile_argument h after
    show fallback? (':' :: '-' :: (value ++ '}' :: after)) = _
    rw [fallback?, hdrop, htake]
    rfl
  | message text =>
    have h : '}' ∉ text := h
    obtain ⟨hdrop, htake⟩ := dropWhile_argument h after
    show fallback? (':' :: '?' :: (text ++ '}' :: after)) = _
    rw [fallback?, hdrop, htake]
    rfl

theorem eq_of_fallback? (h : fallback? t = some (f, after)) :
    t = writtenFallback f ++ '}' :: after ∧ '}' ∉ f.argument := by
  unfold fallback? at h
  split at h
  · cases h
    exact ⟨rfl, List.not_mem_nil⟩
  · rename_i mark rest
    split at h
    · cases h
    · rename_i c stop hdrop
      have hc : c = '}' := by
        have hstops := Text.stops_dropWhile isArgumentChar rest
        rw [hdrop, Text.stops_cons] at hstops
        simpa [isArgumentChar] using hstops
      have hrest : rest = rest.takeWhile isArgumentChar ++ '}' :: stop := by
        rw [← hc, ← hdrop, List.takeWhile_append_dropWhile]
      have hargument : '}' ∉ rest.takeWhile isArgumentChar := fun hmem =>
        isArgumentChar_iff.1 (Text.mem_takeWhile hmem) rfl
      split at h
      · rename_i hmark
        cases h
        exact ⟨by rw [hmark]; exact congrArg (':' :: '-' :: ·) hrest, hargument⟩
      · split at h
        · rename_i hmark
          cases h
          exact ⟨by rw [hmark]; exact congrArg (':' :: '?' :: ·) hrest, hargument⟩
        · cases h
  · cases h

/-- A reference is read at the beginning of exactly the texts that begin with one. -/
theorem atHead?_eq_some_iff :
    atHead? t = some (r, after) ↔ r.Proper ∧ t = r.written ++ after := by
  constructor
  · intro h
    unfold atHead? at h
    split at h
    · rename_i rest
      unfold body? at h
      simp only at h
      split at h
      · cases h
      · rename_i hnamed
        obtain ⟨⟨f, stop⟩, hfallback, heq⟩ := Option.map_eq_some_iff.1 h
        cases heq
        obtain ⟨hrest, hargument⟩ := eq_of_fallback? hfallback
        refine ⟨⟨fun hnil => hnamed (List.isEmpty_iff.2 hnil), ?_, hargument⟩, ?_⟩
        · exact fun c hc => isNameChar_iff.1 (Text.mem_takeWhile hc)
        · have hsplit := List.takeWhile_append_dropWhile (p := isNameChar) (l := rest)
          rw [hrest] at hsplit
          conv => lhs; rw [← hsplit]
          simp [written]
    · cases h
  · rintro ⟨⟨hnamed, hname, hargument⟩, rfl⟩
    obtain ⟨name, f⟩ := r
    have hchars : ∀ c ∈ name, isNameChar c = true := fun c hc => isNameChar_iff.2 (hname c hc)
    have hstops := stops_writtenFallback f after
    have hwritten : written ⟨name, f⟩ ++ after =
        '$' :: '{' :: (name ++ (writtenFallback f ++ '}' :: after)) := by
      simp [written]
    have hempty : ¬ name.isEmpty = true := fun h => hnamed (List.isEmpty_iff.1 h)
    rw [hwritten, atHead?, body?, Text.takeWhile_append_of_stops hchars hstops,
      Text.dropWhile_append_of_stops hchars hstops, fallback?_written hargument]
    exact if_neg hempty

theorem atHead?_eq_none_iff :
    atHead? t = none ↔ ∀ (r : Reference) (after : Text), r.Proper → t ≠ r.written ++ after := by
  rw [Option.eq_none_iff_forall_ne_some]
  constructor
  · exact fun h r after hproper ht => h (r, after) (atHead?_eq_some_iff.2 ⟨hproper, ht⟩)
  · rintro h ⟨r, after⟩ hsome
    obtain ⟨hproper, ht⟩ := atHead?_eq_some_iff.1 hsome
    exact h r after hproper ht

end Reference

/-! ## Cuts -/

namespace SettingPiece

variable {t : Text} {pieces : List SettingPiece}

/-- A cut of a text into pieces, from left to right: a reference where the text begins with one, and
a character where it does not. -/
inductive Cut : Text → List SettingPiece → Prop where
  | nil : Cut [] []
  | reference {r : Reference} {rest : Text} {pieces : List SettingPiece} : r.Proper →
      Cut rest pieces → Cut (r.written ++ rest) (.reference r :: pieces)
  | literal {c : Char} {rest : Text} {pieces : List SettingPiece} :
      (∀ (r : Reference) (after : Text), r.Proper → c :: rest ≠ r.written ++ after) →
      Cut rest pieces → Cut (c :: rest) (.literal c :: pieces)

theorem ofText_of_atHead? {r : Reference} {after : Text}
    (h : Reference.atHead? t = some (r, after)) : ofText t = .reference r :: ofText after := by
  rw [ofText]
  split
  · rename_i found hfound
    rw [h] at hfound
    cases hfound
    rfl
  · rename_i hnone
    rw [h] at hnone
    cases hnone

theorem ofText_cons {c : Char} {rest : Text} (h : Reference.atHead? (c :: rest) = none) :
    ofText (c :: rest) = .literal c :: ofText rest := by
  rw [ofText]
  split
  · rename_i hfound
    rw [h] at hfound
    cases hfound
  · rfl

theorem Cut.eq_ofText (h : Cut t pieces) : pieces = ofText t := by
  induction h with
  | nil => rw [ofText]; rfl
  | reference hproper _ ih =>
    rw [ofText_of_atHead? (Reference.atHead?_eq_some_iff.2 ⟨hproper, rfl⟩), ih]
  | literal hnone _ ih => rw [ofText_cons (Reference.atHead?_eq_none_iff.2 hnone), ih]

theorem cut_ofText (t : Text) : Cut t (ofText t) := by
  induction t using ofText.induct with
  | case1 t r after hhead ih =>
    obtain ⟨hproper, ht⟩ := Reference.atHead?_eq_some_iff.1 hhead
    rw [ofText_of_atHead? hhead, ht]
    exact .reference hproper ih
  | case2 hhead =>
    rw [ofText]
    exact .nil
  | case3 c rest hhead ih =>
    rw [ofText_cons hhead]
    exact .literal (Reference.atHead?_eq_none_iff.1 hhead) ih

/-- Every text has one cut. -/
theorem cut_iff : Cut t pieces ↔ pieces = ofText t :=
  ⟨Cut.eq_ofText, fun h => h ▸ cut_ofText t⟩

end SettingPiece

/-! ## The fault for settings that cannot be used -/

namespace Settings

/-- What to do about a configuration that cannot be used. -/
def invalidAdvice : Text := "Check the configuration file syntax and values".toList

/-- The fault for a configuration that cannot be used, for a reason. -/
def invalid (reason : Text) : Fault where
  code := invalidCode
  category := .configuration
  message := "Configuration is invalid".toList
  detail := .text reason
  suggestion := some invalidAdvice
  template := .undefined
  line := .undefined
  column := .undefined

/-- The wording of the fault for a configuration that cannot be used. -/
def invalidWording : Wording :=
  ⟨invalidCode, .configuration, "Configuration is invalid".toList,
    some "The configuration could not be loaded".toList, some invalidAdvice⟩

theorem refuse_eq {α : Type} {reason : Text} (h : reason ≠ []) :
    (refuse reason : Except Failure α) = .error (.fault (invalid reason)) := by
  have hfind : Registry.builtin.find? invalidCode = some invalidWording := rfl
  have hpresent : (Value.text reason).isPresent = true := by
    simpa [Value.isPresent, Value.size?] using h
  have hmessage : ∀ values, Pattern.fill values invalidWording.message =
      .ok invalidWording.message := fun values => Pattern.fill_of_literals values (by decide +kernel)
  have hadvice : ∀ values, Registry.fillOptional values invalidWording.suggestion =
      .ok (some invalidAdvice) := by
    intro values
    show Pattern.fill values invalidAdvice >>= _ = _
    rw [Pattern.fill_of_literals values (by decide +kernel)]
    rfl
  have hcreate : Registry.builtin.create invalidCode [("detail".toList, .text reason)] =
      .ok (invalid reason) := by
    rw [Registry.create, hfind]
    exact Registry.fault_of_fill rfl (hmessage _) hpresent (hadvice _)
  rw [refuse, Registry.raise, hcreate]

end Settings

/-! ## Filled texts -/

/-- What is reported about a reference that stands for nothing: its message unless that is empty. -/
def Reference.complaint (r : Reference) : Text :=
  match r.fallback with
  | .message (c :: text) => c :: text
  | _ => "Required environment variable ".toList ++ r.name ++ " not set".toList

namespace Environment

variable {env : Environment} {r : Reference} {p : SettingPiece} {pieces : List SettingPiece}
  {e : Failure}

/-- What a piece stands for: a character for itself, and a reference for the value of its variable,
if it is set, or else for its default. -/
inductive StandsFor (env : Environment) : SettingPiece → Text → Prop where
  | literal (c : Char) : StandsFor env (.literal c) [c]
  | value {r : Reference} {value : Text} : env.lookup r.name = some value →
      StandsFor env (.reference r) value
  | default {r : Reference} {value : Text} : env.lookup r.name = none →
      r.fallback = .default value → StandsFor env (.reference r) value

/-- A reference to a variable that is not set, without a default. -/
structure Unmet (env : Environment) (r : Reference) : Prop where
  unset : env.lookup r.name = none
  noDefault : ∀ value, r.fallback ≠ .default value

theorem StandsFor.not_unmet {value : Text} (h : StandsFor env (.reference r) value) :
    ¬ Unmet env r := by
  rintro ⟨hunset, hdefault⟩
  cases h with
  | value hvalue =>
    rw [hunset] at hvalue
    cases hvalue
  | default _ hfallback => exact hdefault _ hfallback

theorem complaint_ne_nil (r : Reference) : r.complaint ≠ [] := by
  unfold Reference.complaint
  split <;> simp

theorem resolve_of_unmet (h : Unmet env r) :
    env.resolve r = .error (.fault (Settings.invalid r.complaint)) := by
  obtain ⟨name, fallback⟩ := r
  rw [← Settings.refuse_eq (complaint_ne_nil _)]
  unfold resolve
  rw [h.unset]
  cases fallback with
  | none => rfl
  | default value => exact absurd rfl (h.noDefault value)
  | message text => cases text <;> rfl

/-- A piece is filled with what it stands for, or is a reference that stands for nothing. -/
theorem fillPiece_cases (env : Environment) (p : SettingPiece) :
    (∃ text, env.fillPiece p = .ok text ∧ StandsFor env p text) ∨
      ∃ r, p = .reference r ∧ Unmet env r := by
  cases p with
  | literal c => exact .inl ⟨_, rfl, .literal c⟩
  | reference r =>
    obtain ⟨name, fallback⟩ := r
    cases hlookup : env.lookup name with
    | some value =>
      refine .inl ⟨value, ?_, .value hlookup⟩
      show resolve env ⟨name, fallback⟩ = _
      rw [resolve, hlookup]
    | none =>
      cases fallback with
      | default value =>
        refine .inl ⟨value, ?_, .default hlookup rfl⟩
        show resolve env ⟨name, .default value⟩ = _
        rw [resolve, hlookup]
      | none => exact .inr ⟨_, rfl, hlookup, nofun⟩
      | message text => exact .inr ⟨_, rfl, hlookup, nofun⟩

theorem StandsFor.fillPiece_eq {text : Text} (h : StandsFor env p text) :
    env.fillPiece p = .ok text := by
  cases h with
  | literal c => rfl
  | @value r value hvalue =>
    show resolve env r = _
    rw [resolve, hvalue]
  | @default r value hunset hfallback =>
    show resolve env r = _
    rw [resolve, hunset, hfallback]

/-- Pieces are filled with what they stand for, one after the other. -/
theorem fillPieces_of_standFor {texts : List Text} (h : List.Forall₂ (StandsFor env) pieces texts) :
    env.fillPieces pieces = .ok texts.flatten := by
  induction h with
  | nil => rfl
  | cons hp _ ih =>
    rw [fillPieces, hp.fillPiece_eq, ih]
    rfl

/-- The first reference that stands for nothing is reported. -/
theorem fillPieces_of_unmet {before after : List SettingPiece}
    (hbefore : ∀ r', .reference r' ∈ before → ¬ Unmet env r') (h : Unmet env r) :
    env.fillPieces (before ++ .reference r :: after) =
      .error (.fault (Settings.invalid r.complaint)) := by
  induction before with
  | nil =>
    show (env.resolve r >>= _) = _
    rw [resolve_of_unmet h]
    rfl
  | cons p before ih =>
    have hrest := ih fun r' hr' => hbefore r' (List.mem_cons_of_mem _ hr')
    rcases fillPiece_cases env p with ⟨text, htext, -⟩ | ⟨r', rfl, hunmet⟩
    · rw [List.cons_append, fillPieces, htext, hrest]
      rfl
    · exact absurd hunmet (hbefore r' (List.mem_cons_self ..))

/-- Pieces stand for texts, or there is a first reference among them that stands for nothing. -/
theorem standFor_or_unmet (env : Environment) (pieces : List SettingPiece) :
    (∃ texts, List.Forall₂ (StandsFor env) pieces texts) ∨
      ∃ before r after, pieces = before ++ .reference r :: after ∧
        (∀ r', .reference r' ∈ before → ¬ Unmet env r') ∧ Unmet env r := by
  induction pieces with
  | nil => exact .inl ⟨[], .nil⟩
  | cons p rest ih =>
    rcases fillPiece_cases env p with ⟨text, -, hp⟩ | ⟨r, rfl, hunmet⟩
    · rcases ih with ⟨texts, hrest⟩ | ⟨before, r, after, rfl, hbefore, hunmet⟩
      · exact .inl ⟨text :: texts, .cons hp hrest⟩
      · refine .inr ⟨p :: before, r, after, rfl, ?_, hunmet⟩
        rintro r' hr'
        rcases List.mem_cons.1 hr' with rfl | hr'
        · exact hp.not_unmet
        · exact hbefore r' hr'
    · exact .inr ⟨[], r, rest, rfl, nofun, hunmet⟩

theorem fillPieces_eq_ok_iff {t : Text} : env.fillPieces pieces = .ok t ↔
    ∃ texts, List.Forall₂ (StandsFor env) pieces texts ∧ t = texts.flatten := by
  constructor
  · intro h
    rcases standFor_or_unmet env pieces with ⟨texts, htexts⟩ | ⟨before, r, after, rfl, hb, hunmet⟩
    · rw [fillPieces_of_standFor htexts] at h
      cases h
      exact ⟨texts, htexts, rfl⟩
    · rw [fillPieces_of_unmet hb hunmet] at h
      cases h
  · rintro ⟨texts, htexts, rfl⟩
    exact fillPieces_of_standFor htexts

theorem fillPieces_eq_error_iff : env.fillPieces pieces = .error e ↔
    ∃ before r after, pieces = before ++ .reference r :: after ∧
      (∀ r', .reference r' ∈ before → ¬ Unmet env r') ∧ Unmet env r ∧
      e = .fault (Settings.invalid r.complaint) := by
  constructor
  · intro h
    rcases standFor_or_unmet env pieces with ⟨texts, htexts⟩ | ⟨before, r, after, rfl, hb, hunmet⟩
    · rw [fillPieces_of_standFor htexts] at h
      cases h
    · rw [fillPieces_of_unmet hb hunmet] at h
      cases h
      exact ⟨before, r, after, rfl, hb, hunmet, rfl⟩
  · rintro ⟨before, r, after, rfl, hb, hunmet, rfl⟩
    exact fillPieces_of_unmet hb hunmet

end Environment

/-! ## Filled values -/

/-- A value that is neither a text nor made of lists and dictionaries. -/
def Value.isFixed : Value → Bool
  | .text _ | .safe _ | .list _ | .shared _ .list _ | .dict _ | .itself => false
  | _ => true

/-- A value stands in another one, at any depth of lists and of the values of dictionaries. -/
inductive Value.StandsIn (leaf : Value) : Value → Prop where
  | self : StandsIn leaf leaf
  | item {items : List Value} {v : Value} : v ∈ items → StandsIn leaf v → StandsIn leaf (.list items)
  | sharedItem {cell : Nat} {items : List Value} {v : Value} : v ∈ items → StandsIn leaf v →
      StandsIn leaf (.shared cell .list items)
  | entry {entries : List (Value × Value)} {k v : Value} : (k, v) ∈ entries → StandsIn leaf v →
      StandsIn leaf (.dict entries)

namespace Environment

mutual

/-- A value with its texts filled: the same lists in the same order, the same keys in the same order,
and the same values of all other kinds. -/
inductive Filled (env : Environment) : Value → Value → Prop where
  | text {t filled : Text} : env.fill t = .ok filled → Filled env (.text t) (.text filled)
  | safe {t filled : Text} : env.fill t = .ok filled → Filled env (.safe t) (.text filled)
  | list {items filled : List Value} : AllFilled env items filled →
      Filled env (.list items) (.list filled)
  | sharedList {cell : Nat} {items filled : List Value} : AllFilled env items filled →
      Filled env (.shared cell .list items) (.list filled)
  | dict {entries filled : List (Value × Value)} : EntriesFilled env entries filled →
      Filled env (.dict entries) (.dict filled)
  | fixed {v : Value} : v.isFixed = true → Filled env v v

/-- Values with their texts filled, one by one. -/
inductive AllFilled (env : Environment) : List Value → List Value → Prop where
  | nil : AllFilled env [] []
  | cons {v w : Value} {vs ws : List Value} : Filled env v w → AllFilled env vs ws →
      AllFilled env (v :: vs) (w :: ws)

/-- Entries with the texts of their values filled, one by one. -/
inductive EntriesFilled (env : Environment) :
    List (Value × Value) → List (Value × Value) → Prop where
  | nil : EntriesFilled env [] []
  | cons {k v w : Value} {es fs : List (Value × Value)} : Filled env v w →
      EntriesFilled env es fs → EntriesFilled env ((k, v) :: es) ((k, w) :: fs)

end

/-- A value that cannot be filled: a text with a reference that stands for nothing, or a list that
holds itself. -/
inductive Blocks (env : Environment) : Value → Failure → Prop where
  | text {t : Text} {e : Failure} : env.fill t = .error e → Blocks env (.text t) e
  | safe {t : Text} {e : Failure} : env.fill t = .error e → Blocks env (.safe t) e
  | itself : Blocks env .itself .endless

/-- Something that stands in a value cannot be filled. -/
def Blocked (env : Environment) (v : Value) (e : Failure) : Prop :=
  ∃ leaf, leaf.StandsIn v ∧ Blocks env leaf e

variable {env : Environment} {e : Failure} {v w leaf : Value}

theorem Blocked.item {items : List Value} (hv : v ∈ items) :
    Blocked env v e → Blocked env (.list items) e
  | ⟨leaf, hleaf, hblocks⟩ => ⟨leaf, .item hv hleaf, hblocks⟩

theorem Blocked.sharedItem {cell : Nat} {items : List Value} (hv : v ∈ items) :
    Blocked env v e → Blocked env (.shared cell .list items) e
  | ⟨leaf, hleaf, hblocks⟩ => ⟨leaf, .sharedItem hv hleaf, hblocks⟩

theorem Blocked.entry {k : Value} {entries : List (Value × Value)} (hv : (k, v) ∈ entries) :
    Blocked env v e → Blocked env (.dict entries) e
  | ⟨leaf, hleaf, hblocks⟩ => ⟨leaf, .entry hv hleaf, hblocks⟩

mutual

/-- A value is filled, or something in it cannot be. -/
theorem yields_fillValue (env : Environment) :
    ∀ v : Value, Yields (Filled env v) (Blocked env v) (env.fillValue v)
  | .text t => by
    unfold fillValue
    cases hfill : env.fill t with
    | ok filled => exact Filled.text hfill
    | error e => exact ⟨_, .self, .text hfill⟩
  | .safe t => by
    unfold fillValue
    cases hfill : env.fill t with
    | ok filled => exact Filled.safe hfill
    | error e => exact ⟨_, .self, .safe hfill⟩
  | .list items => by
    have hitems := (yields_fillItems env items).mono (fun _ => id) fun e ⟨v, hv, he⟩ => he.item hv
    unfold fillValue
    exact hitems.bind fun filled hfilled => Filled.list hfilled
  | .shared cell .list items => by
    have hitems : Yields _ (Blocked env (.shared cell .list items)) _ :=
      (yields_fillItems env items).mono (fun _ => id) fun e ⟨v, hv, he⟩ => he.sharedItem hv
    unfold fillValue
    exact hitems.bind fun filled hfilled => Filled.sharedList hfilled
  | .dict entries => by
    have hentries := (yields_fillEntries env entries).mono (fun _ => id)
      fun e ⟨entry, hv, he⟩ => he.entry hv
    unfold fillValue
    exact hentries.bind fun filled hfilled => Filled.dict hfilled
  | .itself => ⟨_, .self, .itself⟩
  | .shared _ .set _ => Filled.fixed rfl
  | .undefined | .bool _ | .int _ | .float _ | .bytes _ | .tuple _ | .set _ | .range _ _ _
  | .view _ | .object _ _ _ _ | .routine _ _ _ | .method _ _ | .cursor _ _ => Filled.fixed rfl

theorem yields_fillItems (env : Environment) : ∀ items : List Value,
    Yields (AllFilled env items) (fun e => ∃ v ∈ items, Blocked env v e) (env.fillItems items)
  | [] => AllFilled.nil
  | v :: rest => by
    have hfirst := (yields_fillValue env v).mono (fun _ => id)
      fun e he => (⟨v, List.mem_cons_self .., he⟩ : ∃ u ∈ v :: rest, Blocked env u e)
    have hothers := (yields_fillItems env rest).mono (fun _ => id)
      fun e ⟨u, hu, he⟩ => (⟨u, List.mem_cons_of_mem _ hu, he⟩ : ∃ u ∈ v :: rest, Blocked env u e)
    unfold fillItems
    exact hfirst.bind fun first hv => hothers.bind fun others hrest => AllFilled.cons hv hrest

theorem yields_fillEntries (env : Environment) : ∀ entries : List (Value × Value),
    Yields (EntriesFilled env entries) (fun e => ∃ entry ∈ entries, Blocked env entry.2 e)
      (env.fillEntries entries)
  | [] => EntriesFilled.nil
  | (k, v) :: rest => by
    have hfirst := (yields_fillValue env v).mono (fun _ => id) fun e he =>
      (⟨(k, v), List.mem_cons_self .., he⟩ : ∃ entry ∈ (k, v) :: rest, Blocked env entry.2 e)
    have hothers := (yields_fillEntries env rest).mono (fun _ => id) fun e ⟨entry, hentry, he⟩ =>
      (⟨entry, List.mem_cons_of_mem _ hentry, he⟩ :
        ∃ entry ∈ (k, v) :: rest, Blocked env entry.2 e)
    unfold fillEntries
    exact hfirst.bind fun first hv => hothers.bind fun others hrest => EntriesFilled.cons hv hrest

end

theorem fillValue_of_isFixed (h : v.isFixed = true) : env.fillValue v = .ok v := by
  cases v with
  | text | safe | list | dict | itself => cases h
  | shared cell kind items =>
    cases kind with
    | list => cases h
    | set => rfl
  | _ => rfl

mutual

theorem Filled.fillValue_eq {v w : Value} (h : Filled env v w) : env.fillValue v = .ok w := by
  match h with
  | .text hfill =>
    rw [fillValue, hfill]
    rfl
  | .safe hfill =>
    rw [fillValue, hfill]
    rfl
  | .list hitems | .sharedList hitems =>
    rw [fillValue, hitems.fillItems_eq]
    rfl
  | .dict hentries =>
    rw [fillValue, hentries.fillEntries_eq]
    rfl
  | .fixed hfixed => exact fillValue_of_isFixed hfixed
termination_by structural h

theorem AllFilled.fillItems_eq {vs ws : List Value} (h : AllFilled env vs ws) :
    env.fillItems vs = .ok ws := by
  match h with
  | .nil => rfl
  | .cons hv hrest =>
    rw [fillItems, hv.fillValue_eq, hrest.fillItems_eq]
    rfl
termination_by structural h

theorem EntriesFilled.fillEntries_eq {es fs : List (Value × Value)} (h : EntriesFilled env es fs) :
    env.fillEntries es = .ok fs := by
  match h with
  | .nil => rfl
  | .cons hv hrest =>
    rw [fillEntries, hv.fillValue_eq, hrest.fillEntries_eq]
    rfl
termination_by structural h

end

theorem AllFilled.exists_of_mem {vs ws : List Value} (h : AllFilled env vs ws) (hv : v ∈ vs) :
    ∃ w, Filled env v w := by
  induction vs generalizing ws with
  | nil => cases hv
  | cons u vs ih =>
    cases h with
    | cons hu hrest =>
      rcases List.mem_cons.1 hv with rfl | hv
      · exact ⟨_, hu⟩
      · exact ih hrest hv

theorem EntriesFilled.exists_of_mem {k : Value} {es fs : List (Value × Value)}
    (h : EntriesFilled env es fs) (hv : (k, v) ∈ es) : ∃ w, Filled env v w := by
  induction es generalizing fs with
  | nil => cases hv
  | cons entry es ih =>
    cases h with
    | cons hu hrest =>
      rcases List.mem_cons.1 hv with heq | hv
      · cases heq
        exact ⟨_, hu⟩
      · exact ih hrest hv

/-- What stands in a filled value is filled. -/
theorem Filled.exists_of_standsIn (h : Filled env v w) (hleaf : leaf.StandsIn v) :
    ∃ u, Filled env leaf u := by
  induction hleaf generalizing w with
  | self => exact ⟨w, h⟩
  | item hv _ ih =>
    cases h with
    | list hitems =>
      obtain ⟨u, hu⟩ := hitems.exists_of_mem hv
      exact ih hu
    | fixed hfixed => cases hfixed
  | sharedItem hv _ ih =>
    cases h with
    | sharedList hitems =>
      obtain ⟨u, hu⟩ := hitems.exists_of_mem hv
      exact ih hu
    | fixed hfixed => cases hfixed
  | entry hv _ ih =>
    cases h with
    | dict hentries =>
      obtain ⟨u, hu⟩ := hentries.exists_of_mem hv
      exact ih hu
    | fixed hfixed => cases hfixed

theorem Blocks.not_filled (h : Blocks env v e) : ¬ Filled env v w := by
  intro hfilled
  have hvalue := hfilled.fillValue_eq
  cases h with
  | text hfill =>
    rw [fillValue, hfill] at hvalue
    cases hvalue
  | safe hfill =>
    rw [fillValue, hfill] at hvalue
    cases hvalue
  | itself => cases hvalue

/-- A value with something in it that cannot be filled is not filled. -/
theorem Blocked.not_filled (h : Blocked env v e) : ¬ Filled env v w := by
  intro hfilled
  obtain ⟨leaf, hleaf, hblocks⟩ := h
  obtain ⟨u, hu⟩ := hfilled.exists_of_standsIn hleaf
  exact hblocks.not_filled hu

theorem fillValue_eq_ok_iff : env.fillValue v = .ok w ↔ Filled env v w := by
  refine ⟨fun h => ?_, Filled.fillValue_eq⟩
  have hyields := yields_fillValue env v
  rw [h] at hyields
  exact hyields

theorem blocked_of_fillValue (h : env.fillValue v = .error e) : Blocked env v e := by
  have hyields := yields_fillValue env v
  rw [h] at hyields
  exact hyields

theorem exists_fillValue_eq_error_iff :
    (∃ e, env.fillValue v = .error e) ↔ ∃ e, Blocked env v e := by
  constructor
  · rintro ⟨e, h⟩
    exact ⟨e, blocked_of_fillValue h⟩
  · rintro ⟨e, h⟩
    cases hvalue : env.fillValue v with
    | ok w => exact absurd (fillValue_eq_ok_iff.1 hvalue) h.not_filled
    | error e => exact ⟨e, rfl⟩

/-- Expanding references is one pass from left to right. Every text has one cut into references and
other characters. It is filled with what these stand for, one after the other, exactly if all of them
stand for something: a variable that is set for its value, any other one for its default, and what is
put in is not cut again. If a reference stands for nothing, the text is refused with what the first
such reference says. A value is filled at the texts that stand in it, and all else in it stays as it
is; this fails exactly if one of the texts does, or a list holds itself. -/
theorem fill_expands (env : Environment) :
    (∀ t : Text, ∃ pieces, (∀ cut, SettingPiece.Cut t cut ↔ cut = pieces) ∧
      (∀ filled, env.fill t = .ok filled ↔
        ∃ texts, List.Forall₂ (StandsFor env) pieces texts ∧ filled = texts.flatten) ∧
      ∀ e, env.fill t = .error e ↔
        ∃ before r after, pieces = before ++ .reference r :: after ∧
          (∀ r', .reference r' ∈ before → ¬ Unmet env r') ∧ Unmet env r ∧
          e = .fault (Settings.invalid r.complaint)) ∧
    ∀ v : Value, (∀ w, env.fillValue v = .ok w ↔ Filled env v w) ∧
      ((∃ e, env.fillValue v = .error e) ↔ ∃ e, Blocked env v e) ∧
      ∀ e, env.fillValue v = .error e → Blocked env v e := by
  refine ⟨fun t => ⟨SettingPiece.ofText t, fun cut => SettingPiece.cut_iff, ?_, ?_⟩, fun v => ?_⟩
  · exact fun filled => fillPieces_eq_ok_iff
  · exact fun e => fillPieces_eq_error_iff
  · exact ⟨fun w => fillValue_eq_ok_iff, exists_fillValue_eq_error_iff,
      fun e h => blocked_of_fillValue h⟩

/-- Neither what is put in nor a reference that is not closed is read as a reference. -/
example : Environment.fill [("A".toList, "${B}".toList)]
    "${A} ${C:-${B}} ${A:x}".toList =
      .ok "${B} ${B} ${A:x}".toList := by cbv

end Environment
end Stencil
