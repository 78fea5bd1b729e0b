import Stencil.Template.Source
import Stencil.Proofs.Table.Lookup

/-!
# The texts that a source can give

A source gives, for whatever path, only texts that it holds: those of its table, or the decoded files
of its disk. There are at most as many of them as the size of the source says.
-/

set_option autoImplicit false

namespace Stencil

/-- What follows names to a file finds the octets of a file of the tree. -/
theorem FileTree.mem_of_followFrom {t : FileTree} {path : Text} {here : Location}
    {names : List Text} {octets : List Nat} (h : t.followFrom path here names = .ok octets) :
    ∃ l, (l, FileNode.file octets) ∈ t.nodes := by
  induction names generalizing here with
  | nil => cases h
  | cons name rest ih =>
    unfold followFrom at h
    split at h
    · cases h
    · split at h
      · rename_i found hfile
        split at h
        · cases h
          unfold file? at hfile
          split at hfile
          · rename_i octets' hlookup
            cases hfile
            exact ⟨_, Table.mem_of_lookup hlookup⟩
          · cases hfile
        · cases h
      · split at h
        · exact ih h
        · cases h

theorem Registry.raise_ne_ok {α : Type} {code : Text} {context : List (Text × Value)} {a : α} :
    (raise code context : Except Failure α) ≠ .ok a := by
  unfold raise
  split <;> exact nofun

namespace Source

theorem missing_ne_ok {α : Type} {path kind message : Text} {a : α} :
    (missing path kind message : Except Failure α) ≠ .ok a := by
  unfold missing Registry.raiseWrapped
  split <;> exact nofun

/-- The text of a file in an encoding, if there is a reader for that encoding. -/
def decoded? (codecs : Codecs) (encoding : Text) : FileNode → Option Text
  | .directory => none
  | .file octets => match codecs.reader encoding with
    | .error _ => none
    | .ok decode => match decode octets with
      | .ok t => some (Encoding.unifyLines t)
      | .error _ => none

/-- The texts that a source holds. -/
def texts (d : Disk) : Source → List Text
  | .table templates => templates.map Prod.snd
  | .directory _ encoding => d.tree.nodes.filterMap fun e => decoded? d.codecs encoding e.2

theorem length_texts_le (d : Disk) (source : Source) :
    (source.texts d).length ≤ source.size d := by
  cases source with
  | table templates => exact Nat.le_of_eq (List.length_map _)
  | directory root encoding => exact List.length_filterMap_le _ _

theorem mem_texts_of_readFile {d : Disk} {root : Location} {encoding path text : Text}
    (h : readFile d root encoding path = .ok text) :
    text ∈ texts d (.directory root encoding) := by
  unfold readFile at h
  split at h
  · cases h
  · simp only at h
    split at h
    · exact absurd h Registry.raise_ne_ok
    · split at h
      · cases h
      · split at h
        · exact absurd h missing_ne_ok
        · rename_i octets hread
          have hfound : ∃ l, (l, FileNode.file octets) ∈ d.tree.nodes := by
            unfold FileTree.read at hread
            split at hread
            · cases hread
            · exact FileTree.mem_of_followFrom hread
          obtain ⟨l, hl⟩ := hfound
          refine List.mem_filterMap.2 ⟨_, hl, ?_⟩
          split at h
          · cases h
          · rename_i decode hname
            split at h
            · rename_i t hdecode
              cases h
              simp [decoded?, hname, hdecode]
            · exact absurd h missing_ne_ok
            · cases h

/-- What a source gives is a text that it holds. -/
theorem mem_texts_of_read {d : Disk} {source : Source} {path text : Text}
    (h : source.read d path = .ok text) : text ∈ source.texts d := by
  cases source with
  | table templates =>
    cases hlookup : templates.lookup path with
    | none =>
      simp only [read, hlookup] at h
      exact absurd h missing_ne_ok
    | some t =>
      simp only [read, hlookup, Except.ok.injEq] at h
      subst h
      exact List.mem_map.2 ⟨_, Table.mem_of_lookup hlookup, rfl⟩
  | directory root encoding => exact mem_texts_of_readFile h

end Source
end Stencil
