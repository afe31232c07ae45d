import AnnotatedTests.Proofs.Prior
import AnnotatedTests.Registry.Resolution
import Mathlib.Data.List.TakeWhile

/-! Files as a sequence of items. Collecting reads one item after the other, and what an item
is depends on its file alone: on the sites before it, through the group that tests are in. -/
namespace AnnotatedTests
attribute [local irreducible] Comment.directive

/-- A directive with what it is read against: the declaration that follows it, and the group that
tests are in where it stands. -/
structure Instruction where
  directive : Directive
  following : Option Declaration
  current : String

/-- What is recorded at once while a file is read. -/
inductive Item where
  | file (name : String)
  | definition (d : Declaration)
  | malformed (why : Malformed) (place : Place)
  | instruction (i : Instruction)

def Item.instruction? : Item → Option Instruction
  | .instruction i => some i
  | _ => none

def Comment.place (comment : Comment) : Place := ⟨comment.filename, comment.startLine⟩

/-- The number of digits of the numeral that is too long for its comment to be read, if there is
one. -/
def Comment.overlong? (comment : Comment) (marker : String) : Option Nat :=
  match comment.directive marker with
  | .error (.numeralTooLong digits) => some digits
  | _ => none

/-- The group that a comment names as a group directive, if it is one. -/
def Comment.group? (comment : Comment) (marker : String) : Option String :=
  match comment.directive marker with
  | .ok d => if d.kind = .group then d.name else none
  | .error _ => none

theorem Comment.group?_eq_some_iff {comment : Comment} {marker group : String} :
    comment.group? marker = some group ↔
      ∃ d, comment.directive marker = .ok d ∧ d.kind = .group ∧ d.name = some group := by
  unfold Comment.group?
  cases comment.directive marker <;> simp

/-- The group that tests are in behind some sites of a file: the one that the last group directive
among them names, and the one named for the file if there is none. -/
def groupBehind (marker filename : String) (before : List Site) : String :=
  ((before.filterMap fun site => site.comment.group? marker).getLast?).getD
    (defaultGroupName filename)

def Site.item? (marker current : String) (site : Site) : Option Item :=
  match site.comment.directive marker with
  | .ok d => some (.instruction ⟨d, site.following, current⟩)
  | .error (.malformed why) => some (.malformed why site.comment.place)
  | .error (.numeralTooLong _) => none

/-- The items of a file in the order in which they are recorded: its name, its definitions, and its
sites. -/
def Scan.items (marker : String) (file : Scan) : List Item :=
  .file file.filename :: file.definitions.map .definition ++
    (withPrior file.sites).filterMap fun p =>
      p.2.item? marker (groupBehind marker file.filename p.1)

/-- A file up to the first comment that a numeral keeps from being read. -/
def Scan.legible (marker : String) (file : Scan) : Scan :=
  { file with sites := file.sites.takeWhile fun site => (site.comment.overlong? marker).isNone }

/-- Whether no numeral keeps a comment of a file from being read. -/
def Scan.Legible (marker : String) (file : Scan) : Prop :=
  ∀ site ∈ file.sites, site.comment.overlong? marker = none

instance (marker : String) (file : Scan) : Decidable (file.Legible marker) :=
  inferInstanceAs (Decidable (∀ site ∈ file.sites, site.comment.overlong? marker = none))

namespace Collection

def note (c : Collection) (conventions : Conventions) : Item → Collection
  | .file name => { c with files := c.files ++ [name] }
  | .definition d => c.declare d
  | .malformed why place => c.report (.malformed why) place
  | .instruction i =>
    (c.declareIf i.following).follow conventions i.current i.directive i.following

def ofItems (conventions : Conventions) (items : List Item) : Collection :=
  items.foldl (fun c item => c.note conventions item) .empty

@[simp]
theorem ofItems_nil (conventions : Conventions) : ofItems conventions [] = .empty := rfl

@[simp]
theorem ofItems_concat (conventions : Conventions) (items : List Item) (item : Item) :
    ofItems conventions (items ++ [item]) = (ofItems conventions items).note conventions item := by
  simp [ofItems]

end Collection

theorem groupBehind_concat (marker filename : String) (before : List Site) (site : Site) :
    groupBehind marker filename (before ++ [site]) =
      (site.comment.group? marker).getD (groupBehind marker filename before) := by
  unfold groupBehind
  cases hg : site.comment.group? marker with
  | none => simp [hg]
  | some name => simp [hg]

theorem groupAfter_eq {comment : Comment} {marker : String} {d : Directive}
    (h : comment.directive marker = .ok d) (current : String) :
    d.groupAfter current = (comment.group? marker).getD current := by
  by_cases group : d.kind = .group
  · simp [Directive.groupAfter, Comment.group?, h, group]
  · simp [Directive.groupAfter, Comment.group?, h, group]

/-- What is read off the items of a file, where a site gives the same in every group. -/
theorem Scan.filterMap_items {β : Type} {marker : String} {file : Scan} {f : Item → Option β}
    {g : Site → Option β}
    (ofSite : ∀ current, ∀ site ∈ file.sites, (site.item? marker current).bind f = g site) :
    (file.items marker).filterMap f =
      (f (.file file.filename)).toList ++ file.definitions.filterMap (fun d => f (.definition d)) ++
        file.sites.filterMap g := by
  have named : [Item.file file.filename].filterMap f = (f (.file file.filename)).toList := by
    cases read : f (.file file.filename) <;> simp [read]
  have sites : ((withPrior file.sites).filterMap fun p =>
      (p.2.item? marker (groupBehind marker file.filename p.1)).bind f) =
        file.sites.filterMap g := by
    conv_rhs => rw [← map_snd_withPrior file.sites, List.filterMap_map]
    apply List.filterMap_congr
    intro p hp
    exact ofSite _ p.2 (mem_of_mem_withPrior hp)
  rw [Scan.items, List.filterMap_append, List.filterMap_filterMap, sites,
    ← List.singleton_append, List.filterMap_append, named, List.filterMap_map]
  rfl

theorem Scan.legible_eq_self {marker : String} {file : Scan} (h : file.Legible marker) :
    file.legible marker = file := by
  have all : ∀ site ∈ file.sites, (site.comment.overlong? marker).isNone = true := by
    intro site hs
    simp [h site hs]
  simp [Scan.legible, List.takeWhile_eq_self_iff.mpr all]

theorem Scan.legible_iff_findSome {marker : String} {file : Scan} :
    file.Legible marker ↔ file.sites.findSome? (fun s => s.comment.overlong? marker) = none := by
  simp [Scan.Legible, List.findSome?_eq_none_iff]

namespace Collection

/-- Reading sites one by one, with the group passed along, records the items of the sites up to the
first that cannot be read; each is in the group that the sites before it determine. -/
theorem addSites_eq (conventions : Conventions) (filename : String) (sites before : List Site)
    (c : Collection) :
    c.addSites conventions (groupBehind conventions.marker filename before) sites =
      (((withPriorFrom before (sites.takeWhile fun site =>
          (site.comment.overlong? conventions.marker).isNone)).filterMap fun p =>
            p.2.item? conventions.marker (groupBehind conventions.marker filename p.1)).foldl
          (fun c item => c.note conventions item) c,
        sites.findSome? fun site => site.comment.overlong? conventions.marker) := by
  induction sites generalizing before c with
  | nil => rfl
  | cons site rest ih =>
    -- the group that is passed along is the one that the sites read so far determine
    have moved := groupBehind_concat conventions.marker filename before site
    rw [addSites.eq_def]
    cases hd : site.comment.directive conventions.marker with
    | ok d =>
      have readable : site.comment.overlong? conventions.marker = none := by
        simp [Comment.overlong?, hd]
      rw [← groupAfter_eq hd] at moved
      simp only [hd, ← moved, ih, List.takeWhile_cons, readable, Option.isNone_none,
        if_true, withPriorFrom, List.filterMap_cons, Site.item?, List.foldl_cons, note,
        List.findSome?_cons]
    | error failure =>
      cases failure with
      | malformed why =>
        have readable : site.comment.overlong? conventions.marker = none := by
          simp [Comment.overlong?, hd]
        -- a malformed comment names no group, so tests stay in the one that they are in
        have unnamed : site.comment.group? conventions.marker = none := by
          simp [Comment.group?, hd]
        rw [unnamed, Option.getD_none] at moved
        simp only [hd, ← moved, ih, List.takeWhile_cons, readable, Option.isNone_none,
          if_true, withPriorFrom, List.filterMap_cons, Site.item?, List.foldl_cons, note,
          List.findSome?_cons, Comment.place]
      | numeralTooLong digits =>
        have unreadable : site.comment.overlong? conventions.marker = some digits := by
          simp [Comment.overlong?, hd]
        simp [hd, unreadable, withPriorFrom]

/-- Reading a file records its items, up to the first comment that cannot be read. -/
theorem addFile_eq (conventions : Conventions) (c : Collection) (file : Scan) :
    c.addFile conventions file =
      (((file.legible conventions.marker).items conventions.marker).foldl
          (fun c item => c.note conventions item) c,
        file.sites.findSome? fun site => site.comment.overlong? conventions.marker) := by
  have start : defaultGroupName file.filename =
      groupBehind conventions.marker file.filename [] := rfl
  rw [addFile, start, addSites_eq]
  simp only [Scan.items, Scan.legible, withPrior, List.foldl_append, List.foldl_cons,
    List.foldl_map, note]

theorem addFile_ofItems (conventions : Conventions) (items : List Item) (file : Scan) :
    ((ofItems conventions items).addFile conventions file).1 =
      ofItems conventions
        (items ++ (file.legible conventions.marker).items conventions.marker) := by
  rw [addFile_eq, ofItems, ofItems, List.foldl_append]

/-- A run over files ends at the first numeral that is too long, and at no other place. -/
theorem addFiles_snd (conventions : Conventions) (files : List Scan) (c : Collection) :
    (c.addFiles conventions files).2 =
      (files.flatMap Scan.sites).findSome? fun site =>
        site.comment.overlong? conventions.marker := by
  induction files generalizing c with
  | nil => rfl
  | cons file rest ih =>
    rw [addFiles, addFile_eq, List.flatMap_cons, List.findSome?_append]
    cases file.sites.findSome? fun site => site.comment.overlong? conventions.marker with
    | none => simpa using ih _
    | some digits => rfl

/-- A run over files that can be read to their ends records all of their items in order. -/
theorem addFiles_of_legible {conventions : Conventions} {files : List Scan}
    (h : ∀ file ∈ files, file.Legible conventions.marker) (c : Collection) :
    c.addFiles conventions files =
      ((files.flatMap fun file => file.items conventions.marker).foldl
        (fun c item => c.note conventions item) c, none) := by
  induction files generalizing c with
  | nil => rfl
  | cons file rest ih =>
    have here : file.Legible conventions.marker := h file (by simp)
    have behind : ∀ other ∈ rest, other.Legible conventions.marker :=
      fun other ho => h other (List.mem_cons_of_mem _ ho)
    rw [addFiles, addFile_eq, Scan.legible_eq_self here, Scan.legible_iff_findSome.mp here]
    simp only [ih behind, List.flatMap_cons, List.foldl_append]

end Collection

/-- The items of some files, in the order in which they are recorded. -/
def itemsOf (marker : String) (files : List Scan) : List Item :=
  files.flatMap fun file => file.items marker

/-- A registry is returned for exactly the files that can be read to their ends, and it is that of
their items. -/
theorem buildRegistry_eq_ok_iff {conventions : Conventions} {files : List Scan}
    {registry : Registry} :
    (buildRegistry conventions files).1 = .ok registry ↔
      (∀ file ∈ files, file.Legible conventions.marker) ∧
        registry =
          (Collection.ofItems conventions (itemsOf conventions.marker files)).registry := by
  by_cases h : ∀ file ∈ files, file.Legible conventions.marker
  · rw [buildRegistry, Collection.addFiles_of_legible h]
    rw [and_iff_right h, Except.ok.injEq]
    exact eq_comm
  · -- the first comment that cannot be read ends the run without a registry
    have ended : (Collection.empty.addFiles conventions files).2 ≠ none := by
      rw [Collection.addFiles_snd, Ne, List.findSome?_eq_none_iff]
      intro readable
      exact h fun file hf site hs => readable site (List.mem_flatMap.mpr ⟨file, hf, hs⟩)
    obtain ⟨digits, hd⟩ := Option.ne_none_iff_exists'.mp ended
    simp only [h, false_and, iff_false, buildRegistry]
    rcases hrun : Collection.empty.addFiles conventions files with ⟨c, stop⟩
    rw [hrun] at hd
    simp only at hd
    subst hd
    simp

end AnnotatedTests
