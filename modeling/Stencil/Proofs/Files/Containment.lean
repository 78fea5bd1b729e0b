import Stencil.Proofs.Fault.Missing
import Stencil.Proofs.Files.Leads
import Mathlib.Logic.ExistsUnique

/-!
# Reading below a root

A directory of templates gives the texts of files below its root and of no others. What it gives
for a path depends on the location alone that the path leads to; the path itself goes into nothing
but the fault that names it. A location outside the root gives that fault before anything is read,
so it says nothing about what stands there.
-/

set_option autoImplicit false

namespace Stencil

/-- Following names to a file finds the file at their end. -/
theorem FileTree.file?_of_followFrom {t : FileTree} {path : Text} {here : Location}
    {names : List Text} {octets : List Nat} (h : t.followFrom path here names = .ok octets) :
    t.file? (here ++ names) = some octets := by
  induction names generalizing here with
  | nil => cases h
  | cons name rest ih =>
    unfold followFrom at h
    split at h
    · cases h
    · split at h
      · rename_i found hfile
        split at h
        · rename_i hlast
          cases h
          rwa [List.isEmpty_iff.1 hlast]
        · cases h
      · split at h
        · have hrest := ih h
          rwa [List.append_assoc] at hrest
        · cases h

theorem FileTree.file?_of_read {t : FileTree} {path : Text} {l : Location} {octets : List Nat}
    (h : t.read path l = .ok octets) : t.file? l = some octets := by
  unfold read at h
  split at h
  · cases h
  · exact file?_of_followFrom h

theorem Encoding.reader_of_ofName? {name : Text} {e : Encoding} (h : ofName? name = some e) :
    codecs.reader name = .ok e.decode := by
  simp only [codecs, h]

namespace Source

/-! ## Locations -/

/-- Why a location gives no text: a failure that names no path, or the reason why a template is
missing. -/
inductive Obstacle where
  | failure (e : Failure)
  | unreadable (reason : Text)

/-- The failure of a path whose location gives no text. -/
def Obstacle.report (path : Text) : Obstacle → Failure
  | .failure e => e
  | .unreadable reason => .fault (notFound path reason)

theorem mapError_eq_ok_iff {report : Obstacle → Failure} {r : Except Obstacle Text} {text : Text} :
    r.mapError report = .ok text ↔ r = .ok text := by
  cases r with
  | error o => exact iff_of_false nofun nofun
  | ok t =>
    show (Except.ok t : Except Failure Text) = .ok text ↔ _
    rw [Except.ok.injEq, Except.ok.injEq]

/-- The reason for refusing a location outside a root. -/
def outside (root : Location) : Text :=
  "Path resolves outside the templates directory ".toList ++ root.toText

/-- What the file at a location gives. -/
def contentAt (d : Disk) (encoding : Text) (l : Location) : Except Obstacle Text :=
  if encoding.contains '\x00' then .error (.failure .nulInEncoding)
  else match d.tree.read l.toText l with
    | .error p => .error (.unreadable (reasonOf p.kind p.message))
    | .ok octets => match d.codecs.reader encoding with
      | .error reason => .error (.failure (.noEncoding reason))
      | .ok decode => match decode octets with
        | .ok text => .ok (Encoding.unifyLines text)
        | .error (.undecodable p) => .error (.unreadable (reasonOf DecodeProblem.kind p.message))
        | .error (.misencoded reason) => .error (.failure (.misencoded reason))

/-- What a location gives below a root. -/
def contentWithin (d : Disk) (root : Location) (encoding : Text) (l : Location) :
    Except Obstacle Text :=
  if root.isWithin l then contentAt d encoding l else .error (.unreadable (outside root))

/-- Reading a path gives what its location gives; the path itself is only reported. -/
theorem readFile_eq {d : Disk} {root : Location} {encoding path : Text} (h : '\x00' ∉ path) :
    readFile d root encoding path =
      (contentWithin d root encoding (root.resolve path)).mapError (Obstacle.report path) := by
  have hnul : path.contains '\x00' = false := by simpa using h
  unfold readFile contentWithin
  simp only [hnul, Bool.false_eq_true, if_false]
  cases root.isWithin (root.resolve path) with
  | false => exact raise_missing (List.append_ne_nil_of_left_ne_nil (by decide) _)
  | true =>
    unfold contentAt
    simp only [Bool.not_true, Bool.false_eq_true, if_false, if_true]
    cases encoding.contains '\x00' with
    | true => rfl
    | false =>
      simp only [Bool.false_eq_true, if_false]
      cases d.tree.read (root.resolve path).toText (root.resolve path) with
      | error p => exact missing_eq _ _
      | ok octets =>
        simp only
        cases d.codecs.reader encoding with
        | error reason => rfl
        | ok decode =>
          simp only
          cases decode octets with
          | ok text => rfl
          | error trouble =>
            cases trouble with
            | undecodable p => exact missing_eq _ _
            | misencoded reason => rfl

/-! ## Files -/

/-- The text of the file at a location: what an encoding makes of its octets, with lines that end
with a line feed alone. -/
inductive Holds (d : Disk) (encoding : Text) (l : Location) : Text → Prop where
  | mk {octets : List Nat} {decode : List Nat → Except Trouble Text} {text : Text} :
      d.tree.file? l = some octets → d.tree.read l.toText l = .ok octets → '\x00' ∉ encoding →
      d.codecs.reader encoding = .ok decode → decode octets = .ok text →
      Holds d encoding l (Encoding.unifyLines text)

theorem contentAt_eq_ok_iff {d : Disk} {encoding text : Text} {l : Location} :
    contentAt d encoding l = .ok text ↔ Holds d encoding l text := by
  constructor
  · intro h
    unfold contentAt at h
    split at h
    · cases h
    · rename_i hnul
      split at h
      · cases h
      · rename_i octets hread
        split at h
        · cases h
        · rename_i decode hreader
          split at h
          · rename_i decoded hdecode
            cases h
            exact .mk (FileTree.file?_of_read hread) hread (by simpa using hnul) hreader hdecode
          · cases h
          · cases h
  · rintro ⟨-, hread, hnul, hreader, hdecode⟩
    have hcontains : encoding.contains '\x00' = false := by simpa using hnul
    unfold contentAt
    simp only [hcontains, hread, hreader, hdecode, Bool.false_eq_true, if_false]

theorem isWithin_iff {root l : Location} : root.isWithin l = true ↔ root <+: l :=
  List.isPrefixOf_iff_prefix

/-! ## Directories -/

/-- A directory of templates never gives what is outside its root. For every absolute root, a path
leads to one location, and gives a text exactly if the names of the root begin that location and it
is the text of the file there. If they do not begin it, the path gives the fault for a missing
template, whatever the files are. Two paths that lead to the same location give the same, but for
the path that a fault names. -/
theorem read_within_root (d : Disk) (root encoding : Text) (habsolute : root.head? = some '/')
    (hroot : '\x00' ∉ root) :
    ∃ source base, ofDirectory d root encoding = .ok source ∧
      Location.Leads (Text.splitOn '/' root) base ∧
      ∀ (now : Disk) (path : Text), '\x00' ∉ path →
        (∃! l, Location.Leads (FilePath.namesFrom root path) l) ∧
        ∀ l, Location.Leads (FilePath.namesFrom root path) l →
          (∀ text, source.read now path = .ok text ↔
            base <+: l ∧ Holds now encoding l text) ∧
          (¬ base <+: l → source.read now path = .error (.fault (notFound path (outside base)))) ∧
          ∀ path', '\x00' ∉ path' → Location.Leads (FilePath.namesFrom root path') l →
            ∃ r : Except Obstacle Text, source.read now path = r.mapError (Obstacle.report path) ∧
              source.read now path' = r.mapError (Obstacle.report path') := by
  let base := d.workingDirectory.resolve root
  have hbase : Location.Leads (Text.splitOn '/' root) base := by
    rw [Location.leads_iff]
    show _ = Location.resolve _ _
    unfold Location.resolve
    rw [if_pos habsolute]
  have hsource : ofDirectory d root encoding = .ok (.directory base encoding) := by
    unfold ofDirectory
    rw [if_neg (by simpa using hroot)]
  refine ⟨.directory base encoding, base, hsource, hbase, fun now path hpath => ⟨?_, ?_⟩⟩
  · refine ⟨base.resolve path, (FilePath.leads_namesFrom_iff hbase).2 rfl, fun l hl => ?_⟩
    exact ((FilePath.leads_namesFrom_iff hbase).1 hl).symm
  · intro l hl
    have hread : ∀ p, '\x00' ∉ p → Location.Leads (FilePath.namesFrom root p) l →
        (Source.directory base encoding).read now p =
          (contentWithin now base encoding l).mapError (Obstacle.report p) := by
      intro p hp hlead
      rw [← (FilePath.leads_namesFrom_iff hbase).1 hlead]
      exact readFile_eq hp
    refine ⟨fun text => ?_, fun houtside => ?_, fun path' hpath' hl' => ?_⟩
    · rw [hread path hpath hl, mapError_eq_ok_iff, contentWithin, ← isWithin_iff,
        ← contentAt_eq_ok_iff]
      cases base.isWithin l <;> simp
    · rw [hread path hpath hl, contentWithin, if_neg (fun h => houtside (isWithin_iff.1 h))]
      rfl
    · exact ⟨_, hread path hpath hl, hread path' hpath' hl'⟩

/-- A path that leads into the root again, and one that leads into a directory whose name begins
with that of the root. -/
theorem read_within_root_sibling :
    let root := "/srv/t".toList
    let tree : FileTree := ⟨[(["srv".toList, "t".toList, "a".toList], .file [104, 105]),
      (["srv".toList, "t2".toList, "a".toList], .file [104, 105])]⟩
    let disk : Disk := ⟨[], tree, Encoding.codecs⟩
    let base : Location := ["srv".toList, "t".toList]
    let source : Source := .directory base "utf-8".toList
    root.head? = some '/' ∧ '\x00' ∉ root ∧
      '\x00' ∉ "b/../../t/./a".toList ∧ '\x00' ∉ "../t2/a".toList ∧
      ofDirectory disk root "utf-8".toList = .ok source ∧
      source.read disk "b/../../t/./a".toList = .ok "hi".toList ∧
      source.read disk "../t2/a".toList =
        .error (.fault (notFound "../t2/a".toList (outside base))) := by
  intro root tree disk base source
  have habsolute : root.head? = some '/' := by decide
  have hroot : '\x00' ∉ root := by decide
  have hinside : '\x00' ∉ "b/../../t/./a".toList := by decide
  have houtside : '\x00' ∉ "../t2/a".toList := by decide
  obtain ⟨source', base', hsource, hbase, hpaths⟩ :=
    read_within_root disk root "utf-8".toList habsolute hroot
  obtain rfl : source = source' := Except.ok.inj hsource
  obtain rfl : base = base' := Location.leads_iff.1 hbase
  have hfile : Location.Leads (FilePath.namesFrom root "b/../../t/./a".toList)
      ["srv".toList, "t".toList, "a".toList] := Location.leads_iff.2 (by decide)
  have hsibling : Location.Leads (FilePath.namesFrom root "../t2/a".toList)
      ["srv".toList, "t2".toList, "a".toList] := Location.leads_iff.2 (by decide)
  have hholds : Holds disk "utf-8".toList ["srv".toList, "t".toList, "a".toList]
      (Encoding.unifyLines "hi".toList) := by
    have hreader : Encoding.codecs.reader "utf-8".toList = .ok Encoding.utf8.decode :=
      Encoding.reader_of_ofName? (by decide +kernel)
    exact .mk rfl rfl (by decide) hreader rfl
  refine ⟨habsolute, hroot, hinside, houtside, rfl, ?_, ?_⟩
  · exact (((hpaths disk _ hinside).2 _ hfile).1 _).2 ⟨by decide, hholds⟩
  · exact ((hpaths disk _ houtside).2 _ hsibling).2.1 (by decide)

end Source
end Stencil
