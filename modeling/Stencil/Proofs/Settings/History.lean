import Stencil.Proofs.Settings.Acceptance

/-!
# Histories of a loader

A loader is asked for settings again and again, with data or with files, and what surrounds it may
change in between: the files and the environment, and with them what reads documents and which
encodings are known. Its state is decided by the last request that succeeded: the settings are those
that this request gave, and the path is the file that it read, or the one that came with the data.
Requests that fail, for whatever reason, leave no trace. Settings are never given out unless their
texts are those of the data, or the defaults, and their encoding, level and layout exist.
-/

set_option autoImplicit false

namespace Stencil

namespace Settings

/-! ## Settings that are made of data -/

/-- A text of settings is the value that the data gives for it, or the default if it gives none. -/
inductive Taken (fallback : Label) : Option Value → Label → Prop where
  | given (l : Label) : Taken fallback (some l.toValue) l
  | missing : Taken fallback none fallback

/-- What settings that are made of data are. The directory, the encoding and, but for its case, the
level are texts that the data gives, or the defaults. The encoding can be looked up, the level is
one of the levels in upper case, and the layout is the one that the data names, or the default. -/
structure Configures (codecs : Codecs) (data : SettingsData) (s : Settings) : Prop where
  directory : Taken default.directory (Value.lookupName directoryKey data) s.directory
  encoding : Taken default.encoding (Value.lookupName encodingKey data) s.encoding
  askable : '\x00' ∉ s.encoding.text
  known : codecs.knows s.encoding.text = true
  level : ∃ l, Taken default.level (Value.lookupName levelKey (loggingSection data)) l ∧
    s.level = l.upper
  level_mem : s.level.text ∈ levelNames
  level_upper : Text.upper s.level.text = s.level.text
  layout : s.layout.name ∈ ["json".toList, "text".toList]
  layout_given : ∀ v, Value.lookupName layoutKey (loggingSection data) = some v →
    v.text? = some s.layout.name
  layout_missing : Value.lookupName layoutKey (loggingSection data) = none →
    s.layout = default.layout

variable {codecs : Codecs} {data : SettingsData} {s : Settings} {key : Text} {v : Value} {l : Label}

theorem text?_toValue (l : Label) : l.toValue.text? = some l.text := by
  unfold Label.toValue
  split <;> rfl

theorem exists_label (h : v.text? ≠ none) :
    ∃ l : Label, Label.ofValue? v = some l ∧ v = l.toValue := by
  cases v with
  | text t => exact ⟨⟨t, false⟩, rfl, rfl⟩
  | safe t => exact ⟨⟨t, true⟩, rfl, rfl⟩
  | _ => exact absurd rfl h

/-- If what stands under a key can only be a text, then it is taken as it is. -/
theorem taken_textAt (h : ¬ Has data key fun v => v.text? = none) (fallback : Label) :
    Taken fallback (Value.lookupName key data) (textAt data key fallback) := by
  unfold textAt
  cases hlookup : Value.lookupName key data with
  | none => exact .missing
  | some v =>
    obtain ⟨l, hlabel, rfl⟩ := exists_label fun hnone => h ⟨v, hlookup, hnone⟩
    rw [Option.bind_some, hlabel, Option.getD_some]
    exact .given l

/-- An encoding that is taken can be looked up, unless the data names none that exists. -/
theorem encoding_of_taken (h : Taken default.encoding (Value.lookupName encodingKey data) l)
    (haskable : Askable data) (hknown : ¬ Has data encodingKey (NamesNoEncoding codecs)) :
    '\x00' ∉ l.text ∧ codecs.knows l.text = true := by
  generalize hlookup : Value.lookupName encodingKey data = found at h
  cases h with
  | missing => exact ⟨by decide +kernel, codecs.knows_utf8⟩
  | given l =>
    refine ⟨haskable _ _ hlookup (text?_toValue l), ?_⟩
    rw [← Bool.not_eq_false]
    exact fun hnone => hknown ⟨_, hlookup, _, text?_toValue l, hnone⟩

/-- A level that is taken is one of the levels in upper case, unless the data names none of them. -/
theorem level_of_taken (h : Taken default.level (Value.lookupName levelKey data) l)
    (hknown : ¬ Has data levelKey NamesNoLevel) : l.upper.text ∈ levelNames := by
  generalize hlookup : Value.lookupName levelKey data = found at h
  cases h with
  | missing => decide +kernel
  | given l =>
    have hnames : ¬ NamesNoLevel l.toValue := fun hnone => hknown ⟨_, hlookup, hnone⟩
    simp only [NamesNoLevel, not_forall, not_not] at hnames
    obtain ⟨t, ht, hmem⟩ := hnames
    rw [text?_toValue] at ht
    cases ht
    exact hmem

/-- A layout that the data names is taken, unless there is none of that name. -/
theorem layout_of_given (h : Value.lookupName layoutKey (loggingSection data) = some v)
    (hknown : ¬ NamesNoLayout v) : v.text? = some (ofChecked data).layout.name := by
  simp only [NamesNoLayout, not_forall, not_not] at hknown
  obtain ⟨layout, htext⟩ := hknown
  have hread : layoutOf? v = some layout := by
    rw [layoutOf?, htext, Option.bind_some]
    cases layout <;> decide
  have hmade : (ofChecked data).layout = layout := by
    simp only [ofChecked, h, Option.bind_some, hread, Option.getD_some]
  rw [htext, hmade]

/-- The section about logging has only what the data has there. -/
theorem hasLogging_of_has {p : Value → Prop} (h : Has (loggingSection data) key p) :
    HasLogging data fun logging => Has logging key p := by
  unfold loggingSection at h
  split at h
  · rename_i logging hdict
    exact (hasLogging_of_dict hdict).2 h
  · obtain ⟨v, hv, -⟩ := h
    cases hv

/-- A check that ends did not meet a name that keeps encodings from being looked up. -/
theorem askable_of_check {report : Report} (h : check codecs data = .ok report) : Askable data := by
  obtain ⟨_, -, h⟩ := eq_ok_of_bind_eq_ok h
  obtain ⟨remarks, hencoding, -⟩ := eq_ok_of_bind_eq_ok h
  intro v t hlookup htext hnul
  rw [unknownEncoding, hlookup, Option.bind_some, htext] at hencoding
  simp only [List.contains_iff_mem.2 hnul, if_true] at hencoding
  cases hencoding

/-- Data that settings are made of was checked, and is not faulty. -/
theorem of_ofData (h : ofData codecs data = .ok s) :
    Askable data ∧ ¬ Faulty codecs data ∧ s = ofChecked data := by
  obtain ⟨report, hcheck, h⟩ := eq_ok_of_bind_eq_ok h
  have haskable := askable_of_check hcheck
  have hsucceeds : SucceedsIf _ (Reports codecs data) (check codecs data) :=
    check_succeeds haskable
  rw [hcheck] at hsucceeds
  cases hsucceeds with
  | ok _ hreports =>
    split at h
    · rename_i hvalid
      cases h
      exact ⟨haskable, hreports.valid_iff.1 hvalid, rfl⟩
    · exact absurd h Registry.raise_ne_ok

/-- Whatever settings are made of data, they are as settings have to be. -/
theorem configures_of_ofData (h : ofData codecs data = .ok s) : Configures codecs data s := by
  obtain ⟨haskable, hfaulty, rfl⟩ := of_ofData h
  have hencoding := taken_textAt (fun h => hfaulty (.encoding h)) default.encoding
  obtain ⟨hnul, hknown⟩ :=
    encoding_of_taken hencoding haskable fun h => hfaulty (.unknownEncoding h)
  have hnames : ¬ Has (loggingSection data) levelKey NamesNoLevel :=
    fun h => hfaulty (.level (hasLogging_of_has h))
  have hlevel : Taken default.level (Value.lookupName levelKey (loggingSection data))
      (textAt (loggingSection data) levelKey default.level) := by
    refine taken_textAt (fun ⟨v, hv, hnone⟩ => hnames ⟨v, hv, fun t ht => ?_⟩) _
    rw [hnone] at ht
    cases ht
  have hmem := level_of_taken hlevel hnames
  have hupper : ∀ name ∈ levelNames, Text.upper name = name := by decide +kernel
  refine ⟨taken_textAt (fun h => hfaulty (.directory h)) _, hencoding, hnul, hknown,
    ⟨_, hlevel, rfl⟩, hmem, hupper _ hmem, ?_, fun v hv => ?_, fun hnone => ?_⟩
  · cases (ofChecked data).layout <;> decide
  · exact layout_of_given hv fun hnone => hfaulty (.layout (hasLogging_of_has ⟨v, hv, hnone⟩))
  · simp only [ofChecked, hnone, Option.bind_none, Option.getD_none]

end Settings

namespace SettingsLoader

open Settings

/-! ## Requests -/

/-- A request for settings: of a value, with the encodings known at that time and the path of the
file that it came from if that is known, or of a file, from what surrounds the loader at that
time. -/
inductive Request where
  | data (codecs : Codecs) (v : Value) (path : Option Text)
  | file (around : Environs) (path : Option Text) (useDefaults : Bool)

/-- The encodings that are known at the time of a request. -/
def Request.codecs : Request → Codecs
  | .data codecs _ _ => codecs
  | .file around _ _ => around.disk.codecs

/-- What a request gives if it succeeds. Nothing in it depends on the loader. -/
def Request.outcome : Request → Except Failure Loaded
  | .data codecs v path => do
    let data ← dataOf v
    let settings ← ofData codecs data
    .ok ⟨settings, path⟩
  | .file around path useDefaults => find around path useDefaults

/-- What a loader answers to a request, and the loader after it. -/
def answer (l : SettingsLoader) : Request → Except Failure Settings × SettingsLoader
  | .data codecs v path => match dataOf v with
    | .ok data => l.loadData codecs data path
    | .error e => (.error e, l)
  | .file around path useDefaults => l.load around path useDefaults

/-- The loader after requests, one after the other. -/
def after (l : SettingsLoader) (requests : List Request) : SettingsLoader :=
  requests.foldl (fun l r => (l.answer r).2) l

/-- The requests to a loader, each with its answer. -/
def history (l : SettingsLoader) : List Request → List (Request × Except Failure Settings)
  | [] => []
  | r :: rest => (r, (l.answer r).1) :: history (l.answer r).2 rest

/-- There is no file at a path. -/
inductive NoFile (d : Disk) (path : Text) : Prop where
  | nul : '\x00' ∈ path → NoFile d path
  | notFound {p : Text} : d.fileAt path = .error (.notFound p) → NoFile d path
  | notDirectory {p : Text} : d.fileAt path = .error (.notDirectory p) → NoFile d path

/-- The data that a request supplies, and the path of its file: the entries of a value, with the
path that came with it; those of the file that is chosen, with the references in them resolved; and
no entries, without a path, if there is no such file and the defaults are wanted. -/
inductive Request.Supplies : Request → SettingsData → Option Text → Prop where
  | data {codecs : Codecs} {v : Value} {data : SettingsData} {path : Option Text} :
      dataOf v = .ok data → Supplies (.data codecs v path) data path
  | file {around : Environs} {path : Option Text} {useDefaults : Bool} {octets : List Nat}
      {t : Text} {data filled : SettingsData} : '\x00' ∉ chosenPath around.environment path →
      around.disk.fileAt (chosenPath around.environment path) = .ok octets →
      textOf octets = .ok t →
      dataOfDocument (chosenPath around.environment path) (around.document t) = .ok data →
      around.environment.fillEntries data = .ok filled →
      Supplies (.file around path useDefaults) filled (some (chosenPath around.environment path))
  | defaults {around : Environs} {path : Option Text} :
      NoFile around.disk (chosenPath around.environment path) →
      Supplies (.file around path true) [] none

variable {l : SettingsLoader} {r : Request} {requests : List Request} {settings : Settings}

/-- A loader keeps what a request gives, and stays as it was if that is a failure. -/
theorem answer_eq (l : SettingsLoader) (r : Request) : l.answer r = l.keep r.outcome := by
  cases r with
  | data codecs v path =>
    show (match dataOf v with
      | .ok data => l.loadData codecs data path
      | .error e => (.error e, l)) =
        l.keep (dataOf v >>= fun data =>
          ofData codecs data >>= fun settings => .ok ⟨settings, path⟩)
    cases dataOf v with
    | error e => rfl
    | ok data =>
      show l.keep ((ofData codecs data).map fun s => ⟨s, path⟩) =
        l.keep (ofData codecs data >>= fun settings => .ok ⟨settings, path⟩)
      cases ofData codecs data <;> rfl
  | file around path useDefaults => rfl

theorem octetsAt_eq_ok {d : Disk} {path : Text} {found : Option (List Nat)}
    (h : octetsAt d path = .ok found) :
    (found = none ∧ NoFile d path) ∨
      ∃ octets, found = some octets ∧ '\x00' ∉ path ∧ d.fileAt path = .ok octets := by
  unfold octetsAt at h
  split at h
  · rename_i hnul
    cases h
    exact .inl ⟨rfl, .nul (List.contains_iff_mem.1 hnul)⟩
  · rename_i hnul
    split at h
    · rename_i octets hread
      cases h
      exact .inr ⟨octets, rfl, fun hmem => hnul (List.contains_iff_mem.2 hmem), hread⟩
    · rename_i hread
      cases h
      exact .inl ⟨rfl, .notFound hread⟩
    · rename_i hread
      cases h
      exact .inl ⟨rfl, .notDirectory hread⟩
    · cases h

/-- What a request gives is made of the data that it supplies, and has the path of its file. -/
theorem Request.exists_supplies {loaded : Loaded} (h : r.outcome = .ok loaded) :
    ∃ data, r.Supplies data loaded.path ∧ ofData r.codecs data = .ok loaded.settings := by
  cases r with
  | data codecs v path =>
    obtain ⟨data, hdata, h⟩ := eq_ok_of_bind_eq_ok h
    obtain ⟨settings, hsettings, h⟩ := eq_ok_of_bind_eq_ok h
    cases h
    exact ⟨data, .data hdata, hsettings⟩
  | file around path useDefaults =>
    obtain ⟨found, hfound, h⟩ := eq_ok_of_bind_eq_ok h
    rcases octetsAt_eq_ok hfound with ⟨rfl, hnone⟩ | ⟨octets, rfl, hnul, hread⟩
    · cases useDefaults with
      | false => exact absurd h Registry.raise_ne_ok
      | true =>
        obtain ⟨settings, hsettings, h⟩ := eq_ok_of_bind_eq_ok h
        cases h
        exact ⟨[], .defaults hnone, hsettings⟩
    · obtain ⟨settings, hsettings, h⟩ := eq_ok_of_bind_eq_ok h
      cases h
      obtain ⟨t, ht, hsettings⟩ := eq_ok_of_bind_eq_ok hsettings
      obtain ⟨data, hdata, hsettings⟩ := eq_ok_of_bind_eq_ok hsettings
      obtain ⟨filled, hfilled, hsettings⟩ := eq_ok_of_bind_eq_ok hsettings
      exact ⟨filled, .file hnul hread ht hdata hfilled, hsettings⟩

/-! ## Single answers -/

theorem answer_of_error {e : Failure} (h : (l.answer r).1 = .error e) : (l.answer r).2 = l := by
  rw [answer_eq] at h ⊢
  cases houtcome : r.outcome with
  | error e' => rfl
  | ok loaded =>
    rw [houtcome] at h
    cases h

/-- A loader that answers with settings keeps them, with the path of the data that they are made
of. -/
theorem answer_of_ok (h : (l.answer r).1 = .ok settings) :
    ∃ data path, r.Supplies data path ∧ Configures r.codecs data settings ∧
      (l.answer r).2 = ⟨some ⟨settings, path⟩⟩ := by
  rw [answer_eq] at h ⊢
  cases houtcome : r.outcome with
  | error e =>
    rw [houtcome] at h
    cases h
  | ok loaded =>
    rw [houtcome] at h
    cases h
    obtain ⟨data, hsupplies, hmade⟩ := Request.exists_supplies houtcome
    exact ⟨data, loaded.path, hsupplies, configures_of_ofData hmade, rfl⟩

/-! ## Histories -/

/-- All requests of a history failed. -/
def AllFailed (entries : List (Request × Except Failure Settings)) : Prop :=
  ∀ entry ∈ entries, ∃ e, entry.2 = .error e

/-- Requests that fail leave a loader as it was. -/
theorem after_of_allFailed (h : AllFailed (l.history requests)) : l.after requests = l := by
  induction requests with
  | nil => rfl
  | cons r rest ih =>
    obtain ⟨⟨e, hr⟩, hrest⟩ := List.forall_mem_cons.1 h
    show (l.answer r).2.after rest = l
    rw [answer_of_error hr] at hrest ⊢
    exact ih hrest

/-- Where an answer stands in a history, the request for it was made of the loader that the requests
before it left, and those after it were made of the loader that it left. -/
theorem exists_of_history_eq {before later : List (Request × Except Failure Settings)}
    {a : Except Failure Settings} (h : l.history requests = before ++ (r, a) :: later) :
    ∃ l' : SettingsLoader, ∃ rest, (l'.answer r).1 = a ∧ (l'.answer r).2.history rest = later ∧
      l.after requests = (l'.answer r).2.after rest := by
  induction before generalizing l requests with
  | nil =>
    cases requests with
    | nil => cases h
    | cons r' rest =>
      cases h
      exact ⟨l, rest, rfl, rfl, rfl⟩
  | cons entry before ih =>
    cases requests with
    | nil => cases h
    | cons r' rest =>
      have hfound := ih (List.cons.inj h).2
      exact hfound

/-- The last request that succeeded decides what a loader holds. -/
theorem after_of_history_eq {before later : List (Request × Except Failure Settings)}
    (h : l.history requests = before ++ (r, .ok settings) :: later) (hlater : AllFailed later) :
    ∃ data path, r.Supplies data path ∧ Configures r.codecs data settings ∧
      l.after requests = ⟨some ⟨settings, path⟩⟩ := by
  obtain ⟨l', rest, hanswer, hrest, hafter⟩ := exists_of_history_eq h
  obtain ⟨data, path, hsupplies, hconfigures, hkept⟩ := answer_of_ok hanswer
  refine ⟨data, path, hsupplies, hconfigures, ?_⟩
  rw [hafter, ← hkept]
  exact after_of_allFailed (hrest ▸ hlater)

/-- A loader changes only when a request succeeds, whatever was requested before. A request that
fails changes neither its settings nor its path. As long as all requests have failed, it has no
path, and asking for settings raises the fault for an invalid configuration. Afterwards it has the
settings that the last success gave, and the path of the data that this request supplied. All
settings that are ever given are as the data makes them, with an encoding, a level and a layout that
exist. -/
theorem after_follows_last_success (requests : List Request) :
    (∀ r e, ((new.after requests).answer r).1 = .error e →
      ((new.after requests).answer r).2.get = (new.after requests).get ∧
        ((new.after requests).answer r).2.path? = (new.after requests).path?) ∧
    (AllFailed (new.history requests) → (new.after requests).path? = none ∧
      ∃ f : Fault, f.code = invalidCode ∧ (new.after requests).get = .error (.fault f)) ∧
    (∀ before r settings later,
      new.history requests = before ++ (r, .ok settings) :: later → AllFailed later →
        (new.after requests).get = .ok settings ∧
          ∃ data, r.Supplies data (new.after requests).path? ∧
            Configures r.codecs data settings) ∧
    ∀ (r : Request) (settings : Settings), (r, .ok settings) ∈ new.history requests →
      ∃ data path, r.Supplies data path ∧ Configures r.codecs data settings := by
  refine ⟨fun r e herror => ?_, fun hfailed => ?_, fun before r settings later h hlater => ?_,
    fun r settings hmem => ?_⟩
  · rw [answer_of_error herror]
    exact ⟨rfl, rfl⟩
  · rw [after_of_allFailed hfailed]
    exact ⟨rfl, exists_refusal "Configuration not loaded".toList⟩
  · obtain ⟨data, path, hsupplies, hconfigures, hafter⟩ := after_of_history_eq h hlater
    rw [hafter]
    exact ⟨rfl, data, hsupplies, hconfigures⟩
  · obtain ⟨before, later, h⟩ := List.append_of_mem hmem
    obtain ⟨l', rest, hanswer, -, -⟩ := exists_of_history_eq h
    obtain ⟨data, path, hsupplies, hconfigures, -⟩ := answer_of_ok hanswer
    exact ⟨data, path, hsupplies, hconfigures⟩

/-- Settings from data with a path, which stay through a request for data that is refused and one of
a value that is no mapping. -/
theorem after_follows_last_success_refused :
    let requests : List Request := [.data Encoding.codecs (.dict []) (some "site.yaml".toList),
      .data Encoding.codecs (.dict [(.text loggingKey, .text "loud".toList)]) none,
      .data Encoding.codecs .undefined none]
    (new.after requests).get = .ok default ∧
      (new.after requests).path? = some "site.yaml".toList := by
  intro requests
  obtain ⟨-, -, hlast, -⟩ := after_follows_last_success requests
  obtain ⟨f, -, hrefuse⟩ := exists_refusal
    (refusal [remark loggingKey "logging must be a dictionary".toList])
  have hrefused : ∀ l : SettingsLoader, (l.answer
      (.data Encoding.codecs (.dict [(.text loggingKey, .text "loud".toList)]) none)).1 =
        .error (.fault f) :=
    fun l => congrArg (fun made : Except Failure Settings =>
      (l.keep (made.map fun s => ⟨s, none⟩)).1) hrefuse
  have hfailed : AllFailed ((new.history requests).drop 1) :=
    List.forall_mem_cons.2 ⟨⟨_, hrefused _⟩, List.forall_mem_cons.2 ⟨⟨_, rfl⟩, nofun⟩⟩
  obtain ⟨hget, data, hsupplies, -⟩ := hlast [] _ default _ rfl hfailed
  refine ⟨hget, ?_⟩
  generalize (new.after requests).path? = path at hsupplies
  cases hsupplies
  rfl

end SettingsLoader
end Stencil
