import Tandem.Proofs.Compare.Report
import Tandem.Proofs.Host.Interleaving
import Tandem.Proofs.Project.Order
import Tandem.Proofs.Project.Side

/-!
Comparisons of a program with itself.

* `path_compare_sides_iff`: a comparison with an outcome is its checks and then both sides, call by
  call in any order.
* `identical_match`: both sides of a program that does not look at where it is match.
-/

namespace Tandem.Project

open Tandem.Config Tandem.Host Tandem.Host.Task Tandem.Sandbox

/-- An outcome that finds no difference. -/
structure Outcome.Matches (o : Outcome) : Prop where
  status : o.status = .completed
  outputs : o.report.outputsMatch = true
  exitCodes : o.report.exitCodesMatch = true
  similarity : o.report.similarity = .ofNat 100
  diff : o.report.diffLines = []
  verdict : o.isMatch = true

/-- Two records of one behaviour. -/
theorem conclude_matches {plan : Plan} {b : Behaviour} {cap : Nat} {r r' : Record}
    (shows : Shows b cap r) (shows' : Shows b cap r') :
    (conclude plan (some r) (some r')).Matches := by
  have out : r.stdout = r'.stdout := shows.out.trans shows'.out.symm
  have code : r.exitCode = r'.exitCode := shows.code.trans shows'.code.symm
  have status : Status.of r r' = .completed := by
    simp [Status.of, Record.started, shows.started, shows'.started]
  have outputs : (conclude plan (some r) (some r')).report.outputsMatch = true := by
    simp [conclude, Compare.Report.of, out]
  have codes : (conclude plan (some r) (some r')).report.exitCodesMatch = true := by
    simp [conclude, Compare.Report.of, code]
  refine ⟨status, outputs, codes, ?_, ?_, ?_⟩
  · simp [conclude, Compare.Report.of, out, Compare.similarity_self]
  · simp [conclude, Compare.Report.of, out, Compare.unified_self]
  · rw [Outcome.isMatch, outputs, codes]
    simp [conclude, status]

section
variable {s : Settings} {store : ProjectStore} {q : Inquiry}

/-- A comparison with an outcome is its checks and then both sides, call by call in any order. -/
theorem path_compare_sides_iff {events : List (Event host)} {o : Outcome} :
    Task.Path (compare s store q) events (.ok o) ↔
      ∃ plan front back first second r r', events = front ++ back ∧
        Task.Path (check s store q).run front (.ok plan) ∧
        Interleaved (I := host) .turn id first second back ∧
        Task.Path (runSide s plan .source) first r ∧ Task.Path (runSide s plan .target) second r' ∧
        o = conclude plan (some r) (some r') := by
  rw [path_compare_ok_iff]
  constructor
  · rintro ⟨f, front, back, ⟨r, r'⟩, rfl, passed, ran, rfl⟩
    obtain ⟨first, second, mixed, source, target⟩ := path_together_iff.1 ran
    exact ⟨f.plan q, front, back, first, second, r, r', rfl, path_check_ok_iff.2 ⟨f, passed, rfl⟩,
      mixed, source, target, rfl⟩
  · rintro ⟨plan, front, back, first, second, r, r', rfl, checked, mixed, source, target, rfl⟩
    obtain ⟨f, passed, rfl⟩ := path_check_ok_iff.1 checked
    exact ⟨f, front, back, (r, r'), rfl, passed,
      path_together_iff.2 ⟨first, second, mixed, source, target⟩, rfl⟩

/-- The file of a plan is safe. -/
theorem isSafe_of_check {events : List (Event host)} {plan : Plan}
    (checked : Task.Path (check s store q).run events (.ok plan)) :
    plan.inquiry.file.isSafe = true := by
  obtain ⟨f, passed, rfl⟩ := path_check_ok_iff.1 checked
  obtain ⟨_, _, _, -, -, _, _, _, -, -, _, _, _, -, -, _, _, _, -, safe, -⟩ := passed
  exact safe.2.1

/-- Where the trees are the same on both sides and the interpreters too, a guest that does not look
at where it is matches itself, whatever the order of the calls of both sides. -/
theorem identical_match {δ : Type} {w : World δ} {plan : Plan}
    {front first second back : List (Event host)} {r r' : Record}
    (same : s.sourceInterpreter = s.targetInterpreter) (unplaced : w.Unplaced s.moduleVariable?)
    (checked : Task.Path (check s store q).run front (.ok plan))
    (source : Task.Path (runSide s plan .source) first r)
    (target : Task.Path (runSide s plan .target) second r')
    (ordinary : Ordinary w plan.sourceTree (s.limits plan.timeoutSeconds).timeout first)
    (ordinary' : Ordinary w plan.migratedTree (s.limits plan.timeoutSeconds).timeout second)
    (mixed : Interleaved (I := host) .turn id first second back) :
    ∃ o, Task.Path (compare s store q) (front ++ back) (.ok o) ∧ o.Matches := by
  have safe := isSafe_of_check checked
  obtain ⟨dir, shows⟩ := runSide_plays source safe ordinary
  obtain ⟨dir', shows'⟩ := runSide_plays target safe ordinary'
  have behaviour : w.behave (w.given s plan .source dir) = w.behave (w.given s plan .target dir') :=
    unplaced _ _ (given_placeless w plan dir dir' same)
  refine ⟨conclude plan (some r) (some r'), path_compare_sides_iff.2 ?_, ?_⟩
  · exact ⟨plan, front, back, first, second, r, r', rfl, checked, mixed, source, target, rfl⟩
  · exact conclude_matches shows (behaviour ▸ shows')

end

/-! ## A project of one file -/

def loneSettings : Settings :=
  { Settings.standard ⟨"/tmp"⟩ with
    sourceInterpreter := ⟨"/bin/sh"⟩
    targetInterpreter := ⟨"/bin/sh"⟩
    scratchDir := some ⟨"/scratch"⟩ }

def loneStore : ProjectStore where
  sourceTree _ := return .ok (some ⟨"/demo/source"⟩)
  migratedTree _ := return .ok (some ⟨"/demo/migrated"⟩)
  isMigrated _ _ := return .ok true

def lonePlan : Plan :=
  ⟨⟨"demo", ⟨"main.sh"⟩, none, none⟩, 30, ⟨"/demo/source"⟩, ⟨"/demo/migrated"⟩, []⟩

/-- One file stands in the tree. -/
theorem lone_at_iff {rel : List String} {sub : FileTree String} :
    FileTree.At (.directory [("main.sh", .file "")]) rel sub ↔
      (rel = [] ∧ sub = .directory [("main.sh", .file "")]) ∨
        rel = ["main.sh"] ∧ sub = .file "" := by
  rw [at_directory_iff]
  refine or_congr_right ⟨?_, ?_⟩
  · rintro ⟨name, t, more, listed, there, rfl⟩
    cases List.mem_singleton.1 listed
    obtain ⟨rfl, rfl⟩ := (at_leaf_iff (by simp [FileTree.kind])).1 there
    exact ⟨rfl, rfl⟩
  · rintro ⟨rfl, rfl⟩
    exact ⟨"main.sh", .file "", [], by simp, .here _, rfl⟩

/-- Both trees hold one file, and what a guest prints follows from how it is started. -/
def loneWorld (print : Launch → String) : World String where
  environment := []
  entries := [("main.sh", .file "")]
  taken _ := False
  holds _ := ""
  behave g := ⟨.code 0, Text.Utf8.encode (print g.launch).toList⟩
  proper := by
    intro rel sub there name listed
    obtain ⟨rfl, -⟩ | ⟨rfl, -⟩ := lone_at_iff.1 there
    · cases listed
    · cases List.mem_singleton.1 listed
      exact ⟨by decide, by decide⟩
  shallow := by
    intro rel entries there
    obtain ⟨rfl, -⟩ | ⟨-, same⟩ := lone_at_iff.1 there
    · decide
    · cases same
  vacant _ _ _ _ _ _ := id

/-- Everything is found where it should be, and the interpreter answers twice. -/
def loneChecks : List (Event host) :=
  let probe := Probe.launch ⟨"/bin/sh"⟩ (Environment.sanitized [] none)
  let tried : List (Event host) :=
    [⟨.environment, []⟩, ⟨.spawn probe, .ok ⟨9, false⟩⟩, ⟨.now, (0 : Nat)⟩,
      ⟨.poll 9, .ok (some (.code 0))⟩]
  let found (tree : Path) : List (Event host) :=
    [⟨.resolve tree, .ok tree⟩, ⟨.resolve (tree / "main.sh"), .ok (tree / "main.sh")⟩,
      ⟨.stat (tree / "main.sh"), .ok .file⟩]
  found ⟨"/demo/source"⟩ ++ found ⟨"/demo/migrated"⟩ ++ tried ++ tried ++
    [⟨.readFile ⟨"/demo/source/main.sh"⟩, .ok []⟩]

def loneDirectory (r : Runtime) : Path := (⟨"/scratch"⟩ : Path) / WorkDir.name r.directoryName 7 0

def loneLaunch (r : Runtime) : Launch :=
  (sideRequest loneSettings lonePlan r ⟨loneDirectory r⟩).started []

/-- What becomes of a guest that prints a text and ends at once. -/
def loneRun (r : Runtime) (out : String) : List (Event host) :=
  [⟨.poll 42, .ok (some (.code 0))⟩, ⟨.now, (1 : Nat)⟩, ⟨.signalGroup 42 .kill, .ok ()⟩,
    ⟨.drain 42 .out (seconds 2), [.chunk (Text.Utf8.encode out.toList)]⟩,
    ⟨.drain 42 .err (seconds 2), []⟩, ⟨.removeTree (loneDirectory r), .ok ()⟩]

def loneSide (r : Runtime) (out : String) : List (Event host) :=
  let tree := lonePlan.tree r
  let dir := loneDirectory r
  ⟨.stat tree, .ok .directory⟩ :: ⟨.processId, (7 : UInt32)⟩ :: ⟨.nextNumber, (0 : Nat)⟩ ::
    ⟨.createDir dir, .ok ()⟩ :: ⟨.setMode dir WorkDir.ownerOnly, .ok ()⟩ ::
    ⟨.listDir tree, .ok [.ok ⟨"main.sh", .ok .file⟩]⟩ ::
    ⟨.copyFile (tree / "main.sh") (dir / "main.sh"), .ok ()⟩ :: ⟨.environment, []⟩ ::
    ⟨.now, (0 : Nat)⟩ :: ⟨.spawn (loneLaunch r), .ok ⟨42, true⟩⟩ :: loneRun r out

/-- Both sides, the target first. -/
def loneSides (print : Launch → String) : List (Event host) :=
  ((loneSide .target (print (loneLaunch .target))).flatMap fun e => [⟨.turn, false⟩, e]) ++
    loneSide .source (print (loneLaunch .source))

/-- A guest that prints its arguments. -/
def echo (l : Launch) : String := " ".intercalate l.arguments

/-- A guest that looks at its current directory and prints which side it runs for. -/
def whichSide (l : Launch) : String :=
  let names := Host.Path.split ((l.directory.map Host.Path.text).getD "").toList
  if names.any "parity_src_".toList.isPrefixOf then "1\n" else "2\n"

theorem lone_checked :
    Task.Path (check loneSettings loneStore lonePlan.inquiry).run loneChecks (.ok lonePlan) :=
  path_ok_of_replay (by decide +kernel)

theorem lone_ordinary (r : Runtime) (print : Launch → String) :
    Ordinary (loneWorld print) (lonePlan.tree r)
      (loneSettings.limits lonePlan.timeoutSeconds).timeout
      (loneSide r (print (loneLaunch r))) where
  environment answer he := by simpa [loneSide, loneRun, loneWorld] using he
  found answer he := by simpa [loneSide, loneRun] using he
  named := ⟨loneDirectory r, by simp [loneSide]⟩
  started launch answer he := by
    obtain ⟨-, rfl⟩ : launch = loneLaunch r ∧ answer = .ok ⟨42, true⟩ := by
      simpa [loneSide, loneRun] using he
    exact ⟨⟨42, true⟩, rfl, rfl⟩
  clocked := by simp [loneSide, loneRun, Clocked]
  lends := by
    constructor
    · intro rel entries answer there he
      obtain ⟨rfl, same⟩ | ⟨-, same⟩ := lone_at_iff.1 there
      · cases same
        have shown : answer = .ok [.ok ⟨"main.sh", .ok .file⟩] := by
          simpa [loneSide, loneRun, Host.Path.below] using he
        exact ⟨_, .refl _, shown⟩
      · cases same
    · intro rel data there
      obtain ⟨-, same⟩ | ⟨-, same⟩ := lone_at_iff.1 there
      · cases same
      · cases same
        rfl
    · intro path answer he
      have made : path = loneDirectory r ∧ answer = .ok () := by simpa [loneSide, loneRun] using he
      exact .inl ⟨id, made.2⟩
    · intro path mode answer he
      have owned : (path = loneDirectory r ∧ mode = WorkDir.ownerOnly) ∧ answer = .ok () := by
        simpa [loneSide, loneRun] using he
      exact owned.2
    · intro path path' answer he
      have copied : (path = lonePlan.tree r / "main.sh" ∧ path' = loneDirectory r / "main.sh") ∧
          answer = .ok () := by simpa [loneSide, loneRun] using he
      exact copied.2
  plays front back start launch child split := by
    obtain ⟨rfl, rfl, rfl⟩ : launch = loneLaunch r ∧ child = ⟨42, true⟩ ∧
        back = loneRun r (print (loneLaunch r)) := by
      simp [loneSide, loneRun, List.cons_eq_append_iff] at split ⊢
      grind
    refine ⟨fun answer he => ?_, fun before after now split => ?_, fun patience reads he => ?_⟩
    · exact .inr (by simpa [loneRun, loneWorld] using he)
    · simp [loneRun, List.cons_eq_append_iff] at split
    · obtain ⟨-, rfl⟩ : patience = seconds 2 ∧
          reads = [.chunk (Text.Utf8.encode (print (loneLaunch r)).toList)] := by
        simpa [loneRun] using he
      exact delivers_chunk _

theorem lone_interleaved (print : Launch → String) :
    Interleaved (I := host) .turn id (loneSide .source (print (loneLaunch .source)))
      (loneSide .target (print (loneLaunch .target))) (loneSides print) :=
  interleaved_second_first rfl _ _ _

theorem identical_match_echo :
    ∃ o, Task.Path (compare loneSettings loneStore lonePlan.inquiry)
      (loneChecks ++ loneSides echo) (.ok o) ∧ o.Matches := by
  obtain ⟨r, source⟩ : ∃ r, Task.Path (runSide loneSettings lonePlan .source)
      (loneSide .source (echo (loneLaunch .source))) r :=
    exists_path_of_replay (by decide +kernel)
  obtain ⟨r', target⟩ : ∃ r', Task.Path (runSide loneSettings lonePlan .target)
      (loneSide .target (echo (loneLaunch .target))) r' :=
    exists_path_of_replay (by decide +kernel)
  have unplaced : (loneWorld echo).Unplaced loneSettings.moduleVariable? := by
    intro g g' same
    have printed : echo g.launch = echo g'.launch := by
      injection same with launch
      injection launch with _ arguments
      rw [echo, echo, arguments]
    simp [loneWorld, printed]
  exact identical_match rfl unplaced lone_checked source target (lone_ordinary .source echo)
    (lone_ordinary .target echo) (lone_interleaved echo)

/-- A guest that looks at where it is does not match itself. -/
theorem whichSide_not_isMatch :
    loneSettings.sourceInterpreter = loneSettings.targetInterpreter ∧
    (∃ r, Task.Path (runSide loneSettings lonePlan .source)
      (loneSide .source (whichSide (loneLaunch .source))) r) ∧
    (∃ r, Task.Path (runSide loneSettings lonePlan .target)
      (loneSide .target (whichSide (loneLaunch .target))) r) ∧
    Ordinary (loneWorld whichSide) lonePlan.sourceTree
      (loneSettings.limits lonePlan.timeoutSeconds).timeout
      (loneSide .source (whichSide (loneLaunch .source))) ∧
    Ordinary (loneWorld whichSide) lonePlan.migratedTree
      (loneSettings.limits lonePlan.timeoutSeconds).timeout
      (loneSide .target (whichSide (loneLaunch .target))) ∧
    Interleaved (I := host) .turn id (loneSide .source (whichSide (loneLaunch .source)))
      (loneSide .target (whichSide (loneLaunch .target))) (loneSides whichSide) ∧
    ∃ o, Task.Path (compare loneSettings loneStore lonePlan.inquiry)
      (loneChecks ++ loneSides whichSide) (.ok o) ∧ o.isMatch = false := by
  refine ⟨rfl, exists_path_of_replay (by decide +kernel), exists_path_of_replay (by decide +kernel),
    lone_ordinary .source whichSide, lone_ordinary .target whichSide,
    lone_interleaved whichSide, ?_⟩
  have found : (replay (compare loneSettings loneStore lonePlan.inquiry)
      (loneChecks ++ loneSides whichSide)).map (fun answer => answer.toOption.map Outcome.isMatch) =
        some (some false) := by decide +kernel
  obtain ⟨answer, path, same⟩ := exists_path_of_replay_map found
  cases answer with
  | error r => cases same
  | ok o => exact ⟨o, path, Option.some.inj same⟩

end Tandem.Project
