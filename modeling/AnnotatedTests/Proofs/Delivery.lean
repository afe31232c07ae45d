import AnnotatedTests.Proofs.Writing

/-! Runs and files. A run reads its configuration and its sources and changes nothing before both
texts are there. What it makes of the tree is then said by the writing of its outputs: where it ends
with a failure, some of them or of their staged texts may be left behind, and where it ends well,
each target holds its text unless a later text is staged there. -/
namespace AnnotatedTests

/-- Whether a loader of configuration files leaves the files as they are, whatever it reads. -/
def Loader.ReadsOnly (load : Loader (StateM FileTree)) : Prop :=
  ∀ source tree, (load source tree).2 = tree

/-- What options make of the files of a tree, if nothing in them is refused: the settings that
count, the sources as they are scanned, a registry without problems, and the two texts that it
gives. -/
structure Options.Rendering (options : Options) (load : Loader (StateM FileTree)) (here : Spot)
    (tree : FileTree) where
  entries : Entries
  settings : Settings
  files : List Scan
  registry : Registry
  runner : String
  manifest : String
  configured : options.readConfig load (treeDisk here) tree = (.ok entries, tree)
  loaded : (loadSettings entries options.entries).1 = .ok settings
  scanned : List.Forall₂ (fun path file => ∃ bytes, tree.read here path = .ok bytes ∧
    file = scanBytes bytes path settings.marker) options.sources files
  built : (buildRegistry ⟨settings.marker, settings.defaultTimeout⟩ files).1 = .ok registry
  clean : registry.problems = []
  runner_eq : renderRunner registry settings.includes = .ok runner
  manifest_eq : renderManifest registry settings.manifestFormat.word options.output = .ok manifest

section Reading
variable {here : Spot} {tree : FileTree}

theorem scanPaths_cons (marker path : String) (rest : List String) (tree : FileTree) :
    scanPaths (treeDisk here) marker (path :: rest) tree =
      match tree.read here path with
      | .error failure => (([], some failure), tree)
      | .ok bytes =>
        let ((others, failure), last) := scanPaths (treeDisk here) marker rest tree
        ((scanBytes bytes path marker :: others, failure), last) := by
  simp only [scanPaths, treeDisk, bind, StateT.bind]
  cases tree.read here path <;> rfl

/-- Scanning leaves the tree as it is, and gives a scan of every path unless one cannot be read. -/
theorem exists_scanPaths (here : Spot) (marker : String) (paths : List String) (tree : FileTree) :
    ∃ files failure, scanPaths (treeDisk here) marker paths tree = ((files, failure), tree) ∧
      (failure = none → List.Forall₂ (fun path file => ∃ bytes, tree.read here path = .ok bytes ∧
        file = scanBytes bytes path marker) paths files) := by
  induction paths with
  | nil => exact ⟨[], none, rfl, fun _ => .nil⟩
  | cons path rest ih =>
    rw [scanPaths_cons]
    cases read : tree.read here path with
    | error refused => exact ⟨[], some refused, rfl, nofun⟩
    | ok bytes =>
      obtain ⟨files, failure, ran, scanned⟩ := ih
      refine ⟨scanBytes bytes path marker :: files, failure, ?_, ?_⟩
      · dsimp only
        rw [ran]
      · intro finished
        exact .cons ⟨bytes, read, rfl⟩ (scanned finished)

/-- Reading the configuration leaves the tree as it is, if loading does. -/
theorem exists_readConfig {load : Loader (StateM FileTree)} (readsOnly : load.ReadsOnly)
    (here : Spot) (options : Options) (tree : FileTree) :
    ∃ result, options.readConfig load (treeDisk here) tree = (result, tree) := by
  unfold Options.readConfig
  cases options.config with
  | none => exact ⟨_, rfl⟩
  | some given =>
    cases given with
    | emptied => exact ⟨_, Prod.ext rfl (readsOnly _ tree)⟩
    | value path =>
      simp only [treeDisk, bind, StateT.bind]
      cases tree.read here path with
      | error refused => exact ⟨_, rfl⟩
      | ok bytes => exact ⟨_, Prod.ext rfl (readsOnly _ tree)⟩

/-- The texts of a run come from a registry without problems. -/
theorem of_generate {settings : Settings} {files : List Scan} {path : Option (Given String)}
    {generated : Generated} {runner manifest : String}
    (result : (generate settings files path).1 = .ok generated)
    (texts : generated.outputs = some (runner, manifest)) :
    (buildRegistry ⟨settings.marker, settings.defaultTimeout⟩ files).1 = .ok generated.registry ∧
      generated.registry.problems = [] ∧
      renderRunner generated.registry settings.includes = .ok runner ∧
      renderManifest generated.registry settings.manifestFormat.word path = .ok manifest := by
  unfold generate at result
  dsimp only at result
  split at result
  · cases result
  next registry built =>
  split_ifs at result with problems
  · cases result
    cases texts
  · have clean : registry.problems = [] := by simpa [Registry.ok] using problems
    cases rendered : renderRunner registry settings.includes with
    | error failure =>
      rw [rendered] at result
      cases result
    | ok text =>
      cases listed : renderManifest registry settings.manifestFormat.word path with
      | error failure =>
        rw [rendered, listed] at result
        cases result
      | ok text' =>
        rw [rendered, listed] at result
        obtain rfl := (Except.ok.inj result).symm
        obtain ⟨rfl, rfl⟩ := Prod.mk.inj (Option.some.inj texts)
        exact ⟨built, clean, rendered, listed⟩

theorem ending_refused_ne (options : Options) (events : List Event) (failure : Failure) :
    (options.refused events failure).ending ≠ .ok 0 := by
  unfold Options.refused Options.outcome
  cases failure <;> simp

/-- With its settings a run either gives up and leaves the tree as it is, or writes the outputs that
it has rendered. -/
theorem exists_rendering_of_runWith {load : Loader (StateM FileTree)} {options : Options}
    {entries : Entries} {settings : Settings}
    (configured : options.readConfig load (treeDisk here) tree = (.ok entries, tree))
    (loaded : (loadSettings entries options.entries).1 = .ok settings) {events : List Event}
    {outcome : Outcome} {after : FileTree}
    (ran : options.runWith (treeDisk here) settings events tree = (outcome, after)) :
    (after = tree ∧ outcome.ending ≠ .ok 0) ∨
      ∃ (r : options.Rendering load here tree) (events : List Event),
        options.deliver (treeDisk here) events r.runner r.manifest tree = (outcome, after) := by
  obtain ⟨files, unread, read, scanned⟩ := exists_scanPaths here settings.marker options.sources
    tree
  simp only [Options.runWith, bind, StateT.bind, read] at ran
  cases unread with
  | some failure =>
    -- a source that cannot be read ends the run, with an exit code or without
    refine .inl ?_
    cases failure <;> obtain ⟨rfl, rfl⟩ := Prod.mk.inj ran <;>
      exact ⟨rfl, by simp [Options.outcome]⟩
  | none =>
    dsimp only at ran
    cases result : (generate settings files options.output).1 with
    | error failure =>
      rw [result] at ran
      obtain ⟨rfl, rfl⟩ := Prod.mk.inj ran
      exact .inl ⟨rfl, by simp [Options.outcome]⟩
    | ok generated =>
      rw [result] at ran
      dsimp only at ran
      cases texts : generated.outputs with
      | none =>
        -- problems of the registry
        rw [texts] at ran
        obtain ⟨rfl, rfl⟩ := Prod.mk.inj ran
        exact .inl ⟨rfl, by simp [Options.outcome]⟩
      | some pair =>
        obtain ⟨runner, manifest⟩ := pair
        rw [texts] at ran
        obtain ⟨built, clean, rendered, listed⟩ := of_generate result texts
        exact .inr ⟨⟨entries, settings, files, generated.registry, runner, manifest, configured,
          loaded, scanned rfl, built, clean, rendered, listed⟩, _, ran⟩

theorem exists_rendering_of_run {load : Loader (StateM FileTree)} (readsOnly : load.ReadsOnly)
    {options : Options} {outcome : Outcome} {after : FileTree}
    (ran : options.run load (treeDisk here) tree = (outcome, after)) :
    (after = tree ∧ outcome.ending ≠ .ok 0) ∨
      ∃ (r : options.Rendering load here tree) (events : List Event),
        options.deliver (treeDisk here) events r.runner r.manifest tree = (outcome, after) := by
  obtain ⟨result, configured⟩ := exists_readConfig readsOnly here options tree
  simp only [Options.run, bind, StateT.bind, configured] at ran
  cases result with
  | error failure =>
    obtain ⟨rfl, rfl⟩ := Prod.mk.inj ran
    exact .inl ⟨rfl, ending_refused_ne options [] failure⟩
  | ok entries =>
    dsimp only at ran
    cases loaded : (loadSettings entries options.entries).1 with
    | error refused =>
      rw [loaded] at ran
      obtain ⟨rfl, rfl⟩ := Prod.mk.inj ran
      exact .inl ⟨rfl, ending_refused_ne options _ _⟩
    | ok settings =>
      rw [loaded] at ran
      exact exists_rendering_of_runWith configured loaded ran

end Reading

theorem Options.ne_empty_of_mem_outputs {options : Options} {runner manifest : String}
    {output : String × String} (asked : output ∈ options.outputs runner manifest) :
    output.1 ≠ "" := by
  have proper {given : Option (Given String)} {path : String}
      (named : given.bind Given.path? = some path) : path ≠ "" := by
    obtain ⟨value, -, given⟩ := Option.bind_eq_some_iff.mp named
    cases value with
    | emptied => simp [Given.path?] at given
    | value text =>
      simp only [Given.path?] at given
      split_ifs at given with empty
      exact Option.some.inj given ▸ empty
  simp only [Options.outputs, List.mem_append, List.mem_map, Option.mem_toList] at asked
  rcases asked with ⟨path, named, rfl⟩ | ⟨path, named, rfl⟩
  · exact proper named
  · exact proper named

/-- How a run ends once it has its texts, and what it makes of the tree. -/
theorem cases_of_deliver {options : Options} {events : List Event} {runner manifest : String}
    {here : Spot} {tree after : FileTree} {outcome : Outcome}
    (ran : options.deliver (treeDisk here) events runner manifest tree = (outcome, after)) :
    (outcome.ending = .ok 0 ∧ ∃ placed : List Placed,
        options.outputs runner manifest = placed.map Placed.output ∧
          Delivered tree here placed after) ∨
      (outcome.ending = .ok 1 ∧ (after.node? = tree.node? ∨
        LeftBehind tree here (options.outputs runner manifest) after)) ∨
      ∃ failure, outcome.ending = .error failure := by
  have given : ∀ output ∈ options.outputs runner manifest, output.1 ≠ "" :=
    fun _ => Options.ne_empty_of_mem_outputs
  obtain ⟨written, failure, last, wrote, finished, refused⟩ := exists_writeAll given here tree
  simp only [Options.deliver, bind, StateT.bind, wrote] at ran
  cases failure with
  | none =>
    obtain ⟨rfl, rfl⟩ := Prod.mk.inj ran
    exact .inl ⟨rfl, finished rfl⟩
  | some failure =>
    cases failure with
    | file e =>
      obtain ⟨rfl, rfl⟩ := Prod.mk.inj ran
      exact .inr (.inl ⟨rfl, refused e rfl⟩)
    | _ =>
      obtain ⟨rfl, rfl⟩ := Prod.mk.inj ran
      exact .inr (.inr ⟨_, rfl⟩)

/-- A run that ends with an exit code other than zero changes nothing, unless it has its texts and
one of its outputs is refused by the file system: behind one that is staged over another file, or
while the staged ones are moved. -/
theorem leftBehind_of_failed_run {rules : OptionRules} {load : Loader (StateM FileTree)}
    (readsOnly : load.ReadsOnly) {here : Spot} {args : List String} {tree after : FileTree}
    {outcome : Outcome} {code : Nat}
    (ran : run rules load (treeDisk here) args tree = (outcome, after))
    (ended : outcome.ending = .ok code) (failed : code ≠ 0) :
    after.node? = tree.node? ∨ ∃ options, parseArguments rules args = .options options ∧ code = 1 ∧
      ∃ r : options.Rendering load here tree,
        LeftBehind tree here (options.outputs r.runner r.manifest) after := by
  unfold run at ran
  cases parsed : parseArguments rules args with
  | help =>
    rw [parsed] at ran
    obtain ⟨-, rfl⟩ := Prod.mk.inj ran
    exact .inl rfl
  | error e =>
    rw [parsed] at ran
    obtain ⟨-, rfl⟩ := Prod.mk.inj ran
    exact .inl rfl
  | options options =>
    rw [parsed] at ran
    rcases exists_rendering_of_run readsOnly ran with ⟨rfl, -⟩ | ⟨r, events, delivered⟩
    · exact .inl rfl
    · rcases cases_of_deliver delivered with ⟨fine, -⟩ | ⟨one, same | left⟩ | ⟨failure, escaped⟩
      · exact absurd (Except.ok.inj (ended.symm.trans fine)) failed
      · exact .inl same
      · exact .inr ⟨options, rfl, Except.ok.inj (ended.symm.trans one), r, left⟩
      · rw [escaped] at ended
        cases ended

section Words

/-- The setting that a line gives which holds a key, a colon, a blank and a word. -/
def wordEntry? (line : List Char) : Option (String × Value) :=
  match line.splitOn ':' with
  | [key, ' ' :: word] => some (String.ofList key, .text (String.ofList word))
  | _ => none

/-- The settings of a text that gives one word on each line. -/
def wordEntries? (text : List Char) : Option Entries :=
  ((text.splitOn '\n').filter fun line => !line.isEmpty).mapM wordEntry?

/-- A loader of files that give one word on each line. It refuses all others. -/
def loadWords : Loader (StateM FileTree)
  | .emptied => pure (.error (.loader "AttributeError" "'list' object has no attribute 'read'"))
  | .value file =>
    pure
      (match wordEntries? (decodeLossy file.bytes) with
      | some entries => .ok entries
      | none => .error (.settings (.unloadable "not a list of words")))

theorem readsOnly_loadWords : loadWords.ReadsOnly := by
  intro source tree
  cases source <;> rfl

/-- The directory of the runs below, and a configuration in it. -/
def workSpot : Spot := ⟨["work"]⟩

def workTree : FileTree :=
  FileTree.empty.plant workSpot "format.yml" (.file "manifest_format: text\n".toUTF8)

end Words

/-- A source without tests, and a directory. -/
def directoryTree : FileTree :=
  (workTree.plant workSpot "a.c" (.file ByteArray.empty)).plant workSpot "d" .directory

/-- The arguments of a run whose manifest would replace a directory. -/
def directoryArgs : List String := ["-c", "format.yml", "a.c", "-o", "/work/r.c", "-m", "d"]

/-- Where the manifest would replace a directory, the runner is left behind. -/
theorem changed_of_directoryTree :
    ∃ outcome after,
      run .newer loadWords (treeDisk workSpot) directoryArgs directoryTree = (outcome, after) ∧
        outcome.ending = .ok 1 ∧ after.node? ≠ directoryTree.node? := by
  have ended : (run .newer loadWords (treeDisk workSpot) directoryArgs directoryTree).1.ending =
      .ok 1 := by
    decide +kernel
  have made : ((run .newer loadWords (treeDisk workSpot) directoryArgs directoryTree).2.node?
      ⟨["work", "r.c"]⟩).isSome = true := by
    decide +kernel
  have missing : (directoryTree.node? ⟨["work", "r.c"]⟩).isSome = false := by decide +kernel
  cases ran : run .newer loadWords (treeDisk workSpot) directoryArgs directoryTree with
  | mk outcome after =>
    rw [ran] at ended made
    refine ⟨outcome, after, rfl, ended, fun same => ?_⟩
    rw [congrFun same, missing] at made
    cases made

theorem leftBehind_of_directoryTree :
    ∃ outcome after, loadWords.ReadsOnly ∧
      run .newer loadWords (treeDisk workSpot) directoryArgs directoryTree = (outcome, after) ∧
      outcome.ending = .ok 1 ∧ ∃ options,
        parseArguments .newer directoryArgs = .options options ∧
          ∃ r : options.Rendering loadWords workSpot directoryTree,
            LeftBehind directoryTree workSpot (options.outputs r.runner r.manifest) after := by
  obtain ⟨outcome, after, ran, ended, changed⟩ := changed_of_directoryTree
  rcases leftBehind_of_failed_run readsOnly_loadWords ran ended (by decide) with
    same | ⟨options, parsed, -, left⟩
  · exact absurd same changed
  · exact ⟨outcome, after, readsOnly_loadWords, ran, ended, options, parsed, left⟩

theorem not_forall_unchanged_of_failed_run :
    ¬ ∀ (rules : OptionRules) (load : Loader (StateM FileTree)), load.ReadsOnly →
      ∀ (here : Spot) (args : List String) (tree after : FileTree) (outcome : Outcome) (code : Nat),
        run rules load (treeDisk here) args tree = (outcome, after) →
          outcome.ending = .ok code → code ≠ 0 → after.node? = tree.node? := by
  intro unchanged
  obtain ⟨outcome, after, ran, ended, changed⟩ := changed_of_directoryTree
  have same := unchanged .newer loadWords readsOnly_loadWords workSpot directoryArgs directoryTree
    after outcome 1 ran ended (by decide)
  exact changed same

/-- Whether the two outputs that options ask for, if they ask for both, are different files. -/
def Options.NameDifferentFiles (options : Options) (tree : FileTree) (here : Spot) : Prop :=
  ∀ output manifest, options.output.bind Given.path? = some output →
    options.manifest.bind Given.path? = some manifest →
      ∀ spot, tree.locate here output = .ok spot → tree.locate here manifest ≠ .ok spot

theorem exists_pair_of_map_output {placed : List Placed} {first second : String × String}
    (outputs : [first, second] = placed.map Placed.output) :
    ∃ p q, placed = [p, q] ∧ p.path = first.1 ∧ q.path = second.1 := by
  obtain ⟨p, rest, rfl, rfl, others⟩ := List.map_eq_cons_iff.mp outputs.symm
  obtain ⟨q, rest, rfl, rfl, none⟩ := List.map_eq_cons_iff.mp others
  obtain rfl := List.map_eq_nil_iff.mp none
  exact ⟨p, q, rfl, rfl, rfl⟩

theorem nodup_targets {options : Options} {runner manifest : String} {tree : FileTree}
    {here : Spot} {placed : List Placed} (different : options.NameDifferentFiles tree here)
    (asked : options.outputs runner manifest = placed.map Placed.output)
    (places : ∀ p ∈ placed, p.In tree here) : (placed.map Placed.target).Nodup := by
  unfold Options.outputs at asked
  cases first : options.output.bind Given.path? with
  | none =>
    cases second : options.manifest.bind Given.path? with
    | none =>
      obtain rfl : placed = [] := by simpa [first, second] using asked.symm
      exact List.nodup_nil
    | some path =>
      obtain ⟨p, -, rfl⟩ : ∃ p, Placed.output p = (path, manifest) ∧ placed = [p] := by
        simpa [first, second, List.map_eq_singleton_iff, and_comm] using asked.symm
      exact List.nodup_singleton _
  | some path =>
    cases second : options.manifest.bind Given.path? with
    | none =>
      obtain ⟨p, -, rfl⟩ : ∃ p, Placed.output p = (path, runner) ∧ placed = [p] := by
        simpa [first, second, List.map_eq_singleton_iff, and_comm] using asked.symm
      exact List.nodup_singleton _
    | some path' =>
      simp only [first, second, Option.toList_some, List.map_cons, List.map_nil,
        List.singleton_append] at asked
      obtain ⟨p, q, rfl, named, named'⟩ := exists_pair_of_map_output asked
      have target := (places p (by simp)).target
      have target' := (places q (by simp)).target
      rw [named] at target
      rw [named'] at target'
      -- only two outputs can have one file, and their paths lead to different ones
      have spots : p.target ≠ q.target := fun same =>
        different path path' first second p.target target (by rw [target', same])
      simpa using spots

/-- A run that ends well has rendered a runner and a manifest. Its targets hold them unless a text
is staged where an earlier one has been moved, and it changes nothing else but the spots where texts
are staged, which are empty in the end. -/
theorem delivered_of_run {rules : OptionRules} {load : Loader (StateM FileTree)}
    (readsOnly : load.ReadsOnly) {here : Spot} {args : List String} {tree after : FileTree}
    {options : Options} {outcome : Outcome} (parsed : parseArguments rules args = .options options)
    (ran : run rules load (treeDisk here) args tree = (outcome, after))
    (ended : outcome.ending = .ok 0) (different : options.NameDifferentFiles tree here) :
    ∃ (r : options.Rendering load here tree) (placed : List Placed),
      options.outputs r.runner r.manifest = placed.map Placed.output ∧
        (∀ p ∈ placed, p.In tree here) ∧
        (Hold placed after ↔ placed.Pairwise fun p q => p.target ≠ q.staged) ∧
        (Spared tree placed after ↔
          ∀ p ∈ placed, p.staged ∉ placed.map Placed.target → tree.node? p.staged = none) ∧
        (∀ p ∈ placed, p.staged ∉ placed.map Placed.target → after.node? p.staged = none) ∧
        ∀ spot, spot ∉ placed.map Placed.target → spot ∉ placed.map Placed.staged →
          after.node? spot = tree.node? spot := by
  unfold run at ran
  rw [parsed] at ran
  rcases exists_rendering_of_run readsOnly ran with ⟨-, unfinished⟩ | ⟨r, events, delivered⟩
  · exact absurd ended unfinished
  · rcases cases_of_deliver delivered with ⟨-, placed, asked, d⟩ | ⟨one, -⟩ | ⟨failure, escaped⟩
    · have targets := nodup_targets different asked d.places
      exact ⟨r, placed, asked, d.places, d.hold_iff targets, d.spared_iff,
        fun p hp away => d.node?_staged hp away, fun spot away away' => d.node?_eq away away'⟩
    · rw [one] at ended
      cases ended
    · rw [escaped] at ended
      cases ended

/-- A source without tests. -/
def sourceTree : FileTree := workTree.plant workSpot "a.c" (.file ByteArray.empty)

/-- The arguments and the options of a source with two outputs. -/
def twoOutputArgs (output manifest : String) : List String :=
  ["-c", "format.yml", "a.c", "-o", output, "-m", manifest]

def twoOutputs (output manifest : String) : Options :=
  { Options.empty with
    sources := ["a.c"], config := some (.value "format.yml"), output := some (.value output),
    manifest := some (.value manifest) }

theorem nameDifferentFiles_twoOutputs {output manifest : String} {tree : FileTree}
    {here spot spot' : Spot} (located : tree.locate here output = .ok spot)
    (located' : tree.locate here manifest = .ok spot') (apart : spot ≠ spot') :
    (twoOutputs output manifest).NameDifferentFiles tree here := by
  intro path path' named named' third found found'
  obtain ⟨-, rfl⟩ : output ≠ "" ∧ output = path := by simpa [twoOutputs, Given.path?] using named
  obtain ⟨-, rfl⟩ : manifest ≠ "" ∧ manifest = path' := by
    simpa [twoOutputs, Given.path?] using named'
  have first : spot = third := Except.ok.inj (located.symm.trans found)
  have second : spot' = third := Except.ok.inj (located'.symm.trans found')
  exact apart (first.trans second.symm)

theorem delivered_of_sourceTree :
    ∃ outcome after, loadWords.ReadsOnly ∧
      parseArguments .newer (twoOutputArgs "r.c" "/work/r.txt") =
        .options (twoOutputs "r.c" "/work/r.txt") ∧
      run .newer loadWords (treeDisk workSpot) (twoOutputArgs "r.c" "/work/r.txt") sourceTree =
        (outcome, after) ∧
      outcome.ending = .ok 0 ∧
        (twoOutputs "r.c" "/work/r.txt").NameDifferentFiles sourceTree workSpot ∧
        ∃ (r : (twoOutputs "r.c" "/work/r.txt").Rendering loadWords workSpot sourceTree)
          (placed : List Placed),
          (twoOutputs "r.c" "/work/r.txt").outputs r.runner r.manifest =
              placed.map Placed.output ∧
            Hold placed after ∧ Spared sourceTree placed after := by
  have parsed : parseArguments .newer (twoOutputArgs "r.c" "/work/r.txt") =
      .options (twoOutputs "r.c" "/work/r.txt") := by
    decide +kernel
  have ended : (run .newer loadWords (treeDisk workSpot) (twoOutputArgs "r.c" "/work/r.txt")
      sourceTree).1.ending = .ok 0 := by
    decide +kernel
  have first : sourceTree.locate workSpot "r.c" = .ok ⟨["work", "r.c"]⟩ := by decide +kernel
  have second : sourceTree.locate workSpot "/work/r.txt" = .ok ⟨["work", "r.txt"]⟩ := by
    decide +kernel
  have staged : sourceTree.locate workSpot (stagedPath "r.c") = .ok ⟨["work", "r.c.tmp"]⟩ := by
    decide +kernel
  have staged' : sourceTree.locate workSpot (stagedPath "/work/r.txt") =
      .ok ⟨["work", "r.txt.tmp"]⟩ := by
    decide +kernel
  have different := nameDifferentFiles_twoOutputs first second (by decide)
  obtain ⟨r, placed, asked, places, hold, spared, -, -⟩ :=
    delivered_of_run readsOnly_loadWords parsed rfl ended different
  obtain ⟨p, q, rfl, named, named'⟩ := exists_pair_of_map_output asked
  obtain ⟨target, beside⟩ := (places p (by simp)).spots_eq named first staged
  obtain ⟨target', beside'⟩ := (places q (by simp)).spots_eq named' second staged'
  have apart : [p, q].Pairwise fun p q => p.target ≠ q.staged := by
    simp [target, beside']
  have free : ∀ r ∈ [p, q], r.staged ∉ [p, q].map Placed.target →
      sourceTree.node? r.staged = none := by
    have empty : sourceTree.node? ⟨["work", "r.c.tmp"]⟩ = none := by rfl
    have empty' : sourceTree.node? ⟨["work", "r.txt.tmp"]⟩ = none := by rfl
    simp [beside, beside', empty, empty']
  exact ⟨_, _, readsOnly_loadWords, parsed, rfl, ended, different, r, [p, q], asked,
    hold.mpr apart, spared.mpr free⟩

/-- Where the manifest is staged at the target of the runner it is lost. -/
theorem not_forall_hold_of_run :
    ¬ ∀ (rules : OptionRules) (load : Loader (StateM FileTree)), load.ReadsOnly →
      ∀ (here : Spot) (args : List String) (tree after : FileTree) (options : Options)
        (outcome : Outcome), parseArguments rules args = .options options →
        run rules load (treeDisk here) args tree = (outcome, after) → outcome.ending = .ok 0 →
          options.NameDifferentFiles tree here →
            ∃ (r : options.Rendering load here tree) (placed : List Placed),
              options.outputs r.runner r.manifest = placed.map Placed.output ∧
                (∀ p ∈ placed, p.In tree here) ∧ Hold placed after ∧ Spared tree placed after := by
  intro delivered
  have parsed : parseArguments .newer (twoOutputArgs "r.tmp" "r") =
      .options (twoOutputs "r.tmp" "r") := by
    decide +kernel
  have ended : (run .newer loadWords (treeDisk workSpot) (twoOutputArgs "r.tmp" "r")
      sourceTree).1.ending = .ok 0 := by
    decide +kernel
  have first : sourceTree.locate workSpot "r.tmp" = .ok ⟨["work", "r.tmp"]⟩ := by decide +kernel
  have second : sourceTree.locate workSpot "r" = .ok ⟨["work", "r"]⟩ := by decide +kernel
  have staged : sourceTree.locate workSpot (stagedPath "r.tmp") = .ok ⟨["work", "r.tmp.tmp"]⟩ := by
    decide +kernel
  have missing : ((run .newer loadWords (treeDisk workSpot) (twoOutputArgs "r.tmp" "r")
      sourceTree).2.node? ⟨["work", "r.tmp"]⟩).isSome = false := by
    decide +kernel
  have different := nameDifferentFiles_twoOutputs first second (by decide)
  cases ran : run .newer loadWords (treeDisk workSpot) (twoOutputArgs "r.tmp" "r") sourceTree with
  | mk outcome after =>
    rw [ran] at ended missing
    obtain ⟨r, placed, asked, places, hold, -⟩ := delivered .newer loadWords readsOnly_loadWords
      workSpot _ _ _ _ _ parsed ran ended different
    obtain ⟨p, q, rfl, named, -⟩ := exists_pair_of_map_output asked
    obtain ⟨target, -⟩ := (places p (by simp)).spots_eq named first staged
    rw [← target, hold p (by simp)] at missing
    cases missing

end AnnotatedTests
