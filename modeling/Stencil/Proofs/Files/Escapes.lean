import Stencil.Proofs.Files.Containment
import Stencil.Proofs.Engine.Failures

/-!
# Failures to read a directory

Reading a path below a root gives the text of a file, or the fault for a missing template with a
reason, or it lets a failure through that is no fault: for a path or the name of an encoding that
holds a NUL character, for an encoding that nothing can be read in, and for octets that an encoding
refuses in another way than as undecodable, as UTF-16 does without a mark of its order. Loads pass on
what reading fails with, or the fault of a source that does not parse; and renderings fail with
nothing that comes from a directory but what a template fails with that their tree leads to.
-/

set_option autoImplicit false

namespace Stencil

namespace Source

/-! ## Outcomes of reading -/

section Outcomes

variable {d : Disk} {root : Location} {encoding path : Text}

/-- A path stands below a root, and neither it nor the name of the encoding holds NUL. -/
structure Asks (root : Location) (encoding path : Text) : Prop where
  clean : '\x00' ∉ path
  within : root <+: root.resolve path
  encodingClean : '\x00' ∉ encoding

/-- The file that a path below a root leads to has octets. -/
structure Opens (d : Disk) (root : Location) (encoding path : Text) (octets : List Nat) :
    Prop extends Asks root encoding path where
  read : d.tree.read (root.resolve path).toText (root.resolve path) = .ok octets

/-- A path leads to a file below the root, and the file holds a text. -/
structure Finds (d : Disk) (root : Location) (encoding path text : Text) : Prop where
  clean : '\x00' ∉ path
  within : root <+: root.resolve path
  holds : Holds d encoding (root.resolve path) text

/-- Why a template is missing: its path leads out of the root, the file cannot be opened, or its
octets are no text in the encoding. -/
inductive Absent (d : Disk) (root : Location) (encoding path : Text) : Text → Prop where
  | outside : '\x00' ∉ path → ¬ root <+: root.resolve path →
      Absent d root encoding path (outside root)
  | unopened {p : FileProblem} : Asks root encoding path →
      d.tree.read (root.resolve path).toText (root.resolve path) = .error p →
      Absent d root encoding path (reasonOf p.kind p.message)
  | undecodable {octets : List Nat} {decode : List Nat → Except Trouble Text} {p : DecodeProblem} :
      Opens d root encoding path octets → d.codecs.reader encoding = .ok decode →
      decode octets = .error (.undecodable p) →
      Absent d root encoding path (reasonOf DecodeProblem.kind p.message)

/-- A failure that is let through instead of the fault for a missing template. -/
inductive Escapes (d : Disk) (root : Location) (encoding path : Text) : Failure → Prop where
  | path : '\x00' ∈ path → Escapes d root encoding path .nulInPath
  | encoding : '\x00' ∉ path → root <+: root.resolve path → '\x00' ∈ encoding →
      Escapes d root encoding path .nulInEncoding
  | unknown {octets : List Nat} {reason : Text} : Opens d root encoding path octets →
      d.codecs.reader encoding = .error reason →
      Escapes d root encoding path (.noEncoding reason)
  | misencoded {octets : List Nat} {decode : List Nat → Except Trouble Text} {reason : Text} :
      Opens d root encoding path octets → d.codecs.reader encoding = .ok decode →
      decode octets = .error (.misencoded reason) →
      Escapes d root encoding path (.misencoded reason)

theorem readFile_of_nul (h : '\x00' ∈ path) : readFile d root encoding path = .error .nulInPath := by
  unfold readFile
  rw [if_pos (by simpa using h)]

theorem readFile_of_within (hpath : '\x00' ∉ path) (h : root <+: root.resolve path) :
    readFile d root encoding path =
      (contentAt d encoding (root.resolve path)).mapError (Obstacle.report path) := by
  rw [readFile_eq hpath, contentWithin, if_pos (isWithin_iff.2 h)]

theorem Opens.readFile_eq {octets : List Nat} (h : Opens d root encoding path octets) :
    readFile d root encoding path =
      match d.codecs.reader encoding with
      | .error reason => .error (.noEncoding reason)
      | .ok decode => match decode octets with
        | .ok text => .ok (Encoding.unifyLines text)
        | .error (.undecodable p) =>
          .error (.fault (notFound path (reasonOf DecodeProblem.kind p.message)))
        | .error (.misencoded reason) => .error (.misencoded reason) := by
  have hcontains : encoding.contains '\x00' = false := by simpa using h.encodingClean
  rw [readFile_of_within h.clean h.within, contentAt]
  simp only [hcontains, h.read, Bool.false_eq_true, if_false]
  cases d.codecs.reader encoding with
  | error reason => rfl
  | ok decode =>
    simp only
    cases decode octets with
    | ok text => rfl
    | error trouble => cases trouble <;> rfl

theorem Finds.readFile_eq {text : Text} (h : Finds d root encoding path text) :
    readFile d root encoding path = .ok text := by
  rw [readFile_of_within h.clean h.within, mapError_eq_ok_iff, contentAt_eq_ok_iff]
  exact h.holds

theorem Absent.readFile_eq {reason : Text} (h : Absent d root encoding path reason) :
    readFile d root encoding path = .error (.fault (notFound path reason)) := by
  cases h with
  | outside hpath houtside =>
    rw [Source.readFile_eq hpath, contentWithin, if_neg fun h => houtside (isWithin_iff.1 h)]
    rfl
  | unopened hasks hread =>
    have hcontains : encoding.contains '\x00' = false := by simpa using hasks.encodingClean
    rw [readFile_of_within hasks.clean hasks.within, contentAt]
    simp only [hcontains, hread, Bool.false_eq_true, if_false]
    rfl
  | undecodable hopens hreader hdecode =>
    rw [hopens.readFile_eq, hreader]
    simp only [hdecode]

theorem Escapes.readFile_eq {e : Failure} (h : Escapes d root encoding path e) :
    readFile d root encoding path = .error e := by
  cases h with
  | path hnul => exact readFile_of_nul hnul
  | encoding hpath hwithin hnul =>
    have hcontains : encoding.contains '\x00' = true := by simpa using hnul
    rw [readFile_of_within hpath hwithin, contentAt, if_pos hcontains]
    rfl
  | unknown hopens hreader => rw [hopens.readFile_eq, hreader]
  | misencoded hopens hreader hdecode =>
    rw [hopens.readFile_eq, hreader]
    simp only [hdecode]

/-- A path gives a text, is missing, or lets a failure through. -/
theorem finds_or_fails (d : Disk) (root : Location) (encoding path : Text) :
    (∃ text, Finds d root encoding path text) ∨ (∃ reason, Absent d root encoding path reason) ∨
      ∃ e, Escapes d root encoding path e := by
  by_cases hpath : '\x00' ∈ path
  · exact .inr (.inr ⟨_, .path hpath⟩)
  by_cases hwithin : root <+: root.resolve path
  swap
  · exact .inr (.inl ⟨_, .outside hpath hwithin⟩)
  by_cases hencoding : '\x00' ∈ encoding
  · exact .inr (.inr ⟨_, .encoding hpath hwithin hencoding⟩)
  have hasks : Asks root encoding path := ⟨hpath, hwithin, hencoding⟩
  cases hread : d.tree.read (root.resolve path).toText (root.resolve path) with
  | error p => exact .inr (.inl ⟨_, .unopened hasks hread⟩)
  | ok octets =>
    have hopens : Opens d root encoding path octets := ⟨hasks, hread⟩
    cases hreader : d.codecs.reader encoding with
    | error reason => exact .inr (.inr ⟨_, .unknown hopens hreader⟩)
    | ok decode =>
      cases hdecode : decode octets with
      | ok text =>
        exact .inl ⟨_, hpath, hwithin,
          .mk (FileTree.file?_of_read hread) hread hencoding hreader hdecode⟩
      | error trouble =>
        cases trouble with
        | undecodable p => exact .inr (.inl ⟨_, .undecodable hopens hreader hdecode⟩)
        | misencoded reason => exact .inr (.inr ⟨_, .misencoded hopens hreader hdecode⟩)

theorem readFile_eq_ok_iff {text : Text} : readFile d root encoding path = .ok text ↔
    Finds d root encoding path text := by
  refine ⟨fun h => ?_, Finds.readFile_eq⟩
  rcases finds_or_fails d root encoding path with ⟨_, hfinds⟩ | ⟨_, habsent⟩ | ⟨_, hescapes⟩
  · rw [hfinds.readFile_eq] at h
    cases h
    exact hfinds
  · rw [habsent.readFile_eq] at h
    cases h
  · rw [hescapes.readFile_eq] at h
    cases h

theorem readFile_eq_error_iff {e : Failure} : readFile d root encoding path = .error e ↔
    (∃ reason, Absent d root encoding path reason ∧ e = .fault (notFound path reason)) ∨
      Escapes d root encoding path e := by
  constructor
  · intro h
    rcases finds_or_fails d root encoding path with
      ⟨_, hfinds⟩ | ⟨reason, habsent⟩ | ⟨_, hescapes⟩
    · rw [hfinds.readFile_eq] at h
      cases h
    · rw [habsent.readFile_eq] at h
      cases h
      exact .inl ⟨reason, habsent, rfl⟩
    · rw [hescapes.readFile_eq] at h
      cases h
      exact .inr hescapes
  · rintro (⟨reason, habsent, rfl⟩ | hescapes)
    · exact habsent.readFile_eq
    · exact hescapes.readFile_eq

end Outcomes

end Source

/-! ## Failures of renderings -/

namespace Node

open Work (Answers)

variable {answers : Answers} {filters : Filters} {tree : List Node} {start : Context}

/-- How a rendering fails: with a fault or an integer of too many digits, with a size that cannot be
counted, without an end, because its values interrupt it, or with what a template fails with that its
tree leads to. -/
inductive Fails (answers : Answers) (filters : Filters) (tree : List Node) (start : Context) :
    Failure → Prop where
  | reported {f : Failure} : f.Reported → Fails answers filters tree start f
  | overlong : Fails answers filters tree start .overlong
  | endless : Fails answers filters tree start .endless
  | interrupted {f : Failure} : Interrupts answers filters tree start f →
      Fails answers filters tree start f
  | loading {target : Text} {f : Failure} : Leads answers tree target →
      answers target = .error f → Fails answers filters tree start f

theorem Ending.fails {path : Option Text} {f : Failure}
    (h : Ending answers filters tree start path f) : Fails answers filters tree start f := by
  cases h with
  | expression he hf =>
    rcases hf.cause with hdigits | ⟨rfl, -⟩ | hpass
    · exact .reported (.digits hdigits)
    · exact .overlong
    · exact .interrupted (.raised he hpass)
  | element _ _ => exact .overlong
  | resized hwalks hexposed hunsettles =>
    exact .interrupted (.resized hwalks hexposed hunsettles)
  | missing hleads hanswer => exact .loading hleads hanswer
  | returned _ hcycle => exact .reported (reported_of_cycle hcycle)
  | endless _ => exact .endless

/-- The promise that a rendering fails in one of the known ways, however deep it is. -/
def failing (answers : Answers) (filters : Filters) (tree : List Node) (start : Context) :
    Promise where
  node _ n := Involves answers tree n
  scope := Scope answers filters tree start
  piece _ := True
  fail := Fails answers filters tree start
  alters := Unsettles answers filters tree start

theorem kept_failing : (failing answers filters tree start).Kept answers filters where
  child hn hchild := hn.child hchild
  text _ := trivial
  interpolation {_ expression _ c} hn hc := by
    have hrender : (renderExpression filters c expression).Ensures (fun _ => True)
        (Ending answers filters tree start none) :=
      ensures_renderExpression ⟨_, hn, hc, by simp [expressions]⟩
    exact hrender.weakenFail fun _ => Ending.fails
  test {_ branches b c} hn hb hc := by
    have htest : (renderTest filters c b.test).Ensures (fun _ => True)
        (Ending answers filters tree start none) := ensures_renderTest hn hb hc
    exact htest.weakenFail fun _ => Ending.fails
  loop {_ names iterable body c} hn hc := by
    have hrounds : ((Expr.ofText iterable).eval filters c).Ensures
        ((endingPromise answers filters tree start none).Rounds names c)
        (Ending answers filters tree start none) := ensures_loop hn hc
    exact hrounds.mono
      (fun v hv => ⟨hv.scope, fun hw hsize => (hv.size hw hsize).fails,
        fun hexposed hunsettles => (hv.resized hexposed hunsettles).fails⟩)
      fun _ => Ending.fails
  resizes hn hc he hresizes := ⟨_, _, ⟨_, hn, hc, he⟩, hresizes⟩
  asked _ _ := trivial
  missing hn hpath herror := .loading (hn.leads hpath) herror
  extended hn hanswer hm := hn.of_reference (by simp [references]) hanswer hm
  included hn hanswer hm := hn.of_reference (by simp [references]) hanswer hm
  endless _ := .endless
  cyclic _ _ _ _ _ _ _ hcycle := .reported (reported_of_cycle hcycle)

theorem ensures_renderTemplate_fails (depth : Nat) (c : Context) (path : Option Text) :
    (renderTemplate filters depth tree c path).Ensures answers (fun _ => True)
      (Fails answers filters tree c) := by
  cases depth with
  | zero => exact .throw .endless
  | succ depth =>
    have htree : ∀ n ∈ tree, (failing answers filters tree c).node depth n :=
      fun n hn => .own (.here hn)
    have hrender : (failing answers filters tree c).Renders answers
        (renderTemplate filters (depth + 1) tree c path) :=
      Promise.ensures_renderTemplate kept_failing htree .start
        fun _ _ _ _ _ hcycle => .reported (reported_of_cycle hcycle)
    exact (hrender.mono (fun _ _ => trivial) fun _ => id).allow (fun _ _ => trivial)
      fun _ _ => trivial

end Node

namespace Source

variable {s : Session} {root : Location} {encoding path : Text} {e : Failure}

/-- A load from a directory fails with what reading fails with, or with a source that does not
parse. -/
theorem answer_eq_error (h : s.source = .directory root encoding)
    (hanswer : s.answer path = .error e) :
    (∃ reason, Absent s.disk root encoding path reason ∧
        e = .fault (notFound path reason)) ∨
      (∃ source, Finds s.disk root encoding path source ∧
        Node.parse (some path) source = .error e ∧ e.Reported) ∨
      Escapes s.disk root encoding path e := by
  have hread : s.source.read s.disk path = readFile s.disk root encoding path := by
    rw [h]
    rfl
  have hfresh : s.fresh path = .error e := by
    cases hkept : s.kept.lookup path with
    | some kept =>
      rw [Session.answer_of_kept hkept] at hanswer
      cases hanswer
    | none => rwa [Session.answer_of_not_kept hkept] at hanswer
  rw [Session.fresh_eq_error, hread] at hfresh
  rcases hfresh with hfails | ⟨source, hfinds, hparse⟩
  · rcases readFile_eq_error_iff.1 hfails with habsent | hescapes
    · exact .inl habsent
    · exact .inr (.inr hescapes)
  · have hyields := Node.yields_parse (some path) source
    rw [hparse] at hyields
    exact .inr (.inl ⟨source, readFile_eq_ok_iff.1 hfinds, hparse, hyields⟩)

/-- What a directory of templates gives. Reading a path gives the text of a file below the root, or
the fault for a missing template, or lets a failure through, and it tells which of them. A load
fails with one of the two, or with a source that does not parse. A rendering fails with nothing of
that but faults, or with what a path lets through that its tree leads to; on its own it ends early
for sizes, for inclusions that come back, and where its values interrupt it. -/
theorem directory_failures (h : s.source = .directory root encoding) :
    (∀ path, (∀ text, s.source.read s.disk path = .ok text ↔
          Finds s.disk root encoding path text) ∧
        ∀ e, s.source.read s.disk path = .error e ↔
          (∃ reason, Absent s.disk root encoding path reason ∧
            e = .fault (notFound path reason)) ∨ Escapes s.disk root encoding path e) ∧
      (∀ path e, ((Work.load path).outcome s).1 = .error e →
        (∃ reason, Absent s.disk root encoding path reason ∧
            e = .fault (notFound path reason)) ∨
          (∃ source, Finds s.disk root encoding path source ∧
            Node.parse (some path) source = .error e ∧ e.Reported) ∨
          Escapes s.disk root encoding path e) ∧
      ∀ filters depth tree c path e,
        ((Node.renderTemplate filters depth tree c path).outcome s).1 = .error e →
          e.Reported ∨ e = .overlong ∨ e = .endless ∨ Node.Interrupts s.answer filters tree c e ∨
            ∃ target, Node.Leads s.answer tree target ∧
              Escapes s.disk root encoding target e := by
  refine ⟨fun path => ?_, fun path e hload => ?_, fun filters depth tree c path e hrender => ?_⟩
  · rw [h]
    exact ⟨fun text => readFile_eq_ok_iff, fun e => readFile_eq_error_iff⟩
  · obtain ⟨t, ht, -⟩ := Work.outcome_load path s
    rw [ht] at hload
    exact answer_eq_error h hload
  · have hfails : (Node.renderTemplate filters depth tree c path).Ensures s.answer
        (fun _ => True) (Node.Fails s.answer filters tree c) :=
      Node.ensures_renderTemplate_fails depth c path
    have hyields := (hfails s rfl).2
    rw [hrender] at hyields
    cases hyields with
    | reported hreported => exact .inl hreported
    | overlong => exact .inr (.inl rfl)
    | endless => exact .inr (.inr (.inl rfl))
    | interrupted hinterrupts => exact .inr (.inr (.inr (.inl hinterrupts)))
    | loading hleads hanswer =>
      rcases answer_eq_error h hanswer with
        ⟨_, -, rfl⟩ | ⟨_, -, -, hreported⟩ | hescapes
      · exact .inl (.fault _)
      · exact .inl hreported
      · exact .inr (.inr (.inr (.inr ⟨_, hleads, hescapes⟩)))

/-- In a directory read as UTF-16, a file without a mark of its order, and a path without a file. -/
theorem directory_failures_unmarked :
    let base : Location := ["t".toList]
    let tree : FileTree := ⟨[(["t".toList, "a".toList], .file [104, 105])]⟩
    let s := Session.start ⟨[], tree, Encoding.codecs⟩ (.directory base "utf-16".toList)
    s.source = .directory base "utf-16".toList ∧
      s.source.read s.disk "a".toList =
        .error (.misencoded "UTF-16 stream does not start with BOM".toList) ∧
      s.source.read s.disk "b".toList = .error (.fault (notFound "b".toList
        "FileNotFoundError: [Errno 2] No such file or directory: '/t/b'".toList)) := by
  intro base tree s
  obtain ⟨hread, -⟩ := @directory_failures s base "utf-16".toList rfl
  have hasks : ∀ path, '\x00' ∉ path → base <+: base.resolve path →
      Asks base "utf-16".toList path := fun path hclean hwithin => ⟨hclean, hwithin, by decide⟩
  have hreader : Encoding.codecs.reader "utf-16".toList = .ok Encoding.utf16.decode :=
    Encoding.reader_of_ofName? (by decide +kernel)
  have hescapes : Escapes s.disk base "utf-16".toList "a".toList
      (.misencoded "UTF-16 stream does not start with BOM".toList) :=
    .misencoded ⟨hasks _ (by decide) (by decide), rfl⟩ hreader rfl
  let p : FileProblem := .notFound "/t/b".toList
  have hunopened : s.disk.tree.read (base.resolve "b".toList).toText (base.resolve "b".toList) =
      .error p := rfl
  have habsent : Absent s.disk base "utf-16".toList "b".toList (reasonOf p.kind p.message) :=
    .unopened (hasks _ (by decide) (by decide)) hunopened
  exact ⟨rfl, ((hread _).2 _).2 (.inr hescapes), ((hread _).2 _).2 (.inl ⟨_, habsent, rfl⟩)⟩

end Source
end Stencil
