import Stencil.Files.Path

/-!
# Where paths lead

The location that the names of a path lead to, said without the walk that finds it. A double dot
takes back the last name that is still there, and everything between the two has been taken back
before; so the names of a path are those of its location, in order, with names between them that
lead back to where they began. At the root of the file tree a double dot leads nowhere. Walking from
name to name finds this location, and it is the only one.
-/

set_option autoImplicit false

namespace Stencil

namespace Location

/-- A name that leads down: it is not empty, and not made of dots that have a meaning. -/
structure LeadsDown (name : Text) : Prop where
  ne_nil : name ≠ []
  ne_dot : name ≠ ['.']
  ne_dots : name ≠ ['.', '.']

/-- Names that lead back to where they began: nothing and single dots lead nowhere, and a double dot
takes back a name in front of it. -/
inductive Idle : List Text → Prop where
  | nil : Idle []
  | skip {name : Text} {rest : List Text} : name = [] ∨ name = ['.'] → Idle rest →
      Idle (name :: rest)
  | back {name : Text} {inner rest : List Text} : LeadsDown name → Idle inner → Idle rest →
      Idle (name :: inner ++ ['.', '.'] :: rest)

/-- Names that lead from the root of the file tree to a location. -/
inductive Leads : List Text → Location → Prop where
  | root {names : List Text} : Idle names → Leads names []
  | up {names rest : List Text} : Leads names [] → Idle rest →
      Leads (names ++ ['.', '.'] :: rest) []
  | down {names rest : List Text} {l : Location} {name : Text} : Leads names l → LeadsDown name →
      Idle rest → Leads (names ++ name :: rest) (l ++ [name])

variable {names rest : List Text} {l here : Location} {name : Text}

/-! ## One name -/

theorem step_of_skip (h : name = [] ∨ name = ['.']) (here : Location) : step here name = here := by
  unfold step
  rw [if_pos]
  rcases h with rfl | rfl <;> simp

theorem step_dots (here : Location) : step here ['.', '.'] = here.dropLast := by
  simp [step]

theorem step_of_leadsDown (h : LeadsDown name) (here : Location) :
    step here name = here ++ [name] := by
  unfold step
  rw [if_neg (by simp [h.ne_nil, h.ne_dot]), if_neg h.ne_dots]

/-! ## Walking finds the location -/

/-- A walk along idle names ends where it began. -/
theorem Idle.foldl (h : Idle names) (here : Location) : names.foldl step here = here := by
  induction h generalizing here with
  | nil => rfl
  | skip hname _ ih => rw [List.foldl_cons, step_of_skip hname, ih]
  | back hname _ _ hinner hrest =>
    rw [List.foldl_append, List.foldl_cons, List.foldl_cons, step_of_leadsDown hname, hinner,
      step_dots, List.dropLast_concat, hrest]

theorem Leads.foldl (h : Leads names l) : names.foldl step [] = l := by
  induction h with
  | root hidle => exact hidle.foldl []
  | up _ hidle ih =>
    rw [List.foldl_append, ih, List.foldl_cons, step_dots, List.dropLast_nil, hidle.foldl]
  | down _ hname hidle ih =>
    rw [List.foldl_append, ih, List.foldl_cons, step_of_leadsDown hname, hidle.foldl]

/-! ## There is a location -/

theorem Idle.append (h : Idle names) (h' : Idle rest) : Idle (names ++ rest) := by
  induction h with
  | nil => exact h'
  | skip hname _ ih => exact .skip hname ih
  | back hname hinner _ _ ih =>
    have hback := Idle.back hname hinner ih
    rwa [← List.cons_append, ← List.append_assoc] at hback

theorem Leads.append (h : Leads names l) (h' : Idle rest) : Leads (names ++ rest) l := by
  cases h with
  | root hidle => exact .root (hidle.append h')
  | up hnames hidle =>
    rw [List.append_assoc, List.cons_append]
    exact .up hnames (hidle.append h')
  | down hnames hname hidle =>
    rw [List.append_assoc, List.cons_append]
    exact .down hnames hname (hidle.append h')

/-- A double dot takes back the last name of a location that was led to. -/
theorem Leads.back (h : Leads names l) : Leads (names ++ [['.', '.']]) l.dropLast := by
  cases h with
  | root hidle => exact .up (.root hidle) .nil
  | up hnames hidle => exact .up (.up hnames hidle) .nil
  | @down names rest l name hnames hname hidle =>
    have hback : Leads (names ++ (name :: rest ++ [['.', '.']])) l :=
      hnames.append (.back hname hidle .nil)
    rwa [List.dropLast_concat, List.append_assoc]

theorem Leads.step (h : Leads names l) (name : Text) : Leads (names ++ [name]) (l.step name) := by
  by_cases hskip : name = [] ∨ name = ['.']
  · rw [step_of_skip hskip]
    exact h.append (.skip hskip .nil)
  · by_cases hdots : name = ['.', '.']
    · rw [hdots, step_dots]
      exact h.back
    · rw [not_or] at hskip
      have hdown : LeadsDown name := ⟨hskip.1, hskip.2, hdots⟩
      rw [step_of_leadsDown hdown]
      exact .down h hdown .nil

theorem leads_foldl (h : Leads names l) (rest : List Text) :
    Leads (names ++ rest) (rest.foldl Location.step l) := by
  induction rest generalizing names l with
  | nil =>
    rw [List.append_nil]
    exact h
  | cons name rest ih =>
    have hrest := ih (h.step name)
    rwa [List.append_assoc] at hrest

/-- The walk finds the location that the names lead to, and there is no other one. -/
theorem leads_iff : Leads names l ↔ names.foldl step [] = l := by
  constructor
  · exact Leads.foldl
  · rintro rfl
    exact leads_foldl (.root .nil) names

end Location

namespace FilePath

/-- The names of a path that is taken from a root. An absolute path stands alone; the names of any
other one follow those of the root. -/
def namesFrom (root path : Text) : List Text :=
  if path.head? = some '/' then Text.splitOn '/' path
  else Text.splitOn '/' root ++ Text.splitOn '/' path

variable {root path : Text} {base l : Location}

/-- A path is resolved against a root to the location that its names lead to. -/
theorem leads_namesFrom_iff (h : Location.Leads (Text.splitOn '/' root) base) :
    Location.Leads (namesFrom root path) l ↔ base.resolve path = l := by
  unfold namesFrom Location.resolve
  by_cases habsolute : path.head? = some '/'
  · rw [if_pos habsolute, if_pos habsolute, Location.leads_iff]
  · rw [if_neg habsolute, if_neg habsolute, Location.leads_iff, List.foldl_append, h.foldl]

end FilePath
end Stencil
