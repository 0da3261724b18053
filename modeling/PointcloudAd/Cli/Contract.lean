import PointcloudAd.Cli.Program
import PointcloudAd.Serialization.ResultDocument

/-!
# What a process leaves

The exit codes and the files of every command line. An inspection ends with success exactly when
its report is complete and both files were taken; the verdict has no part in it, and no other file
is ever written.
-/

namespace PointcloudAd.Cli

open Library Registration

variable {ι : Type}

theorem orExit_ok_iff {α : Type} {result : Result α} {process process' : Process ι} {value : α} :
    Faulty.outcome (orExit result) process = (.ok value, process') ↔
      result = .ok value ∧ process' = process := by
  cases result with
  | ok a =>
    simp only [orExit, Faulty.outcome_pure, Prod.mk.injEq, Except.ok.injEq]
    exact and_congr_right fun _ => eq_comm
  | error e => simp [orExit, printError, printErr, Faulty.outcome_bind]

theorem orExit_bind_ok_iff {α β : Type} {result : Result α} {f : α → Program ι β}
    {process process' : Process ι} {value : β} :
    Faulty.outcome (orExit result >>= f) process = (.ok value, process') ↔
      ∃ a, result = .ok a ∧ Faulty.outcome (f a) process = (.ok value, process') := by
  rw [Faulty.outcome_bind_ok_iff]
  constructor
  · rintro ⟨a, _, hvalue, h⟩
    obtain ⟨hresult, rfl⟩ := orExit_ok_iff.mp hvalue
    exact ⟨a, hresult, h⟩
  · rintro ⟨a, hresult, h⟩
    exact ⟨a, process, orExit_ok_iff.mpr ⟨hresult, rfl⟩, h⟩

theorem orExit_error {α : Type} {result : Result α} {process process' : Process ι}
    {ending : Ending} (h : Faulty.outcome (orExit result) process = (.error ending, process')) :
    ending = .exit 1 ∧ process'.content = process.content := by
  cases result with
  | ok a => simp [orExit] at h
  | error e =>
    simp only [orExit, printError, printErr, Faulty.outcome_bind, Faulty.outcome_modify,
      Faulty.outcome_throw, Prod.mk.injEq, Except.error.injEq] at h
    obtain ⟨rfl, rfl⟩ := h
    exact ⟨rfl, rfl⟩

theorem usageExit_outcome {α : Type} (text : String) (process : Process ι) :
    Faulty.outcome (usageExit text : Program ι α) process =
      (.error (.exit 2), { process with err := process.err ++ text }) := by
  simp [usageExit, printErr, Faulty.outcome_bind, kExitUsage]

theorem runDecoding_bind_ok_iff {α β : Type} {decoding : Decoding α} {f : α → Program ι β}
    {process process' : Process ι} {value : β} :
    Faulty.outcome ((runDecoding decoding >>= orExit) >>= f) process = (.ok value, process') ↔
      ∃ a, (Faulty.outcome decoding []).1 = .ok a ∧
        Faulty.outcome (f a) process = (.ok value, process') := by
  rw [bind_assoc]
  unfold runDecoding
  rcases (Faulty.outcome decoding []).1 with (error | _) | a
  · simp [orExit_bind_ok_iff]
  · simp
  · simp [orExit_bind_ok_iff]

section

variable {F D : Type} [DecidableEq ι] {machine : Machine ι F D}

/-- A file that takes what is written to it, as far as the program can see. -/
def Machine.Takes (machine : Machine ι F D) (path : String) : Prop :=
  machine.refusesWriting (machine.resolve path) = false ∧
    machine.failsWriting (machine.resolve path) = none

/-- The process after a file has been taken. -/
def Machine.stored (machine : Machine ι F D) (path : String) (text : Bytes) (process : Process ι) :
    Process ι :=
  store (machine.resolve path)
    (partOf (machine.losesOnClose (machine.resolve path)) text) process

theorem writeTextFile_taken {path : String} (h : machine.Takes path) (text : Bytes)
    (process : Process ι) :
    Faulty.outcome (writeTextFile machine path text) process =
      (.ok (.ok text.length), machine.stored path text process) := by
  unfold writeTextFile
  dsimp only
  rw [h.1, h.2]
  rfl

theorem writeTextFile_refused {path : String} (h : ¬ machine.Takes path) (text : Bytes)
    (process : Process ι) : ∃ error process',
      Faulty.outcome (writeTextFile machine path text) process = (.ok (.error error), process') ∧
        ∀ node, node ≠ machine.resolve path → process'.content node = process.content node := by
  unfold writeTextFile
  dsimp only
  cases hrefuses : machine.refusesWriting (machine.resolve path) with
  | true => exact ⟨_, process, rfl, fun _ _ => rfl⟩
  | false =>
    cases hfails : machine.failsWriting (machine.resolve path) with
    | none => exact absurd ⟨hrefuses, hfails⟩ h
    | some kept =>
      refine ⟨_, store (machine.resolve path) (text.take kept) process, rfl, ?_⟩
      intro node hnode
      exact Function.update_of_ne hnode _ _

theorem stored_of_ne {path : String} {node : ι} (h : node ≠ machine.resolve path) (text : Bytes)
    (process : Process ι) :
    (machine.stored path text process).content node = process.content node :=
  Function.update_of_ne h _ _

theorem stored_resolve {path : String} (text : Bytes) (process : Process ι) :
    (machine.stored path text process).content (machine.resolve path) =
      some (partOf (machine.losesOnClose (machine.resolve path)) text) :=
  Function.update_self _ _ _

theorem write_ok_iff {path : String} {text : Bytes} {process process' : Process ι}
    {written : ℕ} :
    Faulty.outcome (writeTextFile machine path text >>= orExit) process = (.ok written, process') ↔
      machine.Takes path ∧ written = text.length ∧ process' = machine.stored path text process := by
  by_cases h : machine.Takes path
  · rw [Faulty.outcome_bind, writeTextFile_taken h]
    simp only [orExit_ok_iff, h, true_and, Except.ok.injEq]
    exact and_congr_left fun _ => eq_comm
  · obtain ⟨error, process'', houtcome, -⟩ := writeTextFile_refused h text process
    rw [Faulty.outcome_bind, houtcome]
    simp [orExit_ok_iff, h]

theorem write_error {path : String} {text : Bytes} {process process' : Process ι}
    {ending : Ending}
    (h : Faulty.outcome (writeTextFile machine path text >>= orExit) process =
      (.error ending, process')) :
    ending = .exit 1 ∧
      ∀ node, node ≠ machine.resolve path → process'.content node = process.content node := by
  by_cases htakes : machine.Takes path
  · rw [Faulty.outcome_bind, writeTextFile_taken htakes] at h
    simp [orExit] at h
  · obtain ⟨error, process'', houtcome, hothers⟩ := writeTextFile_refused htakes text process
    rw [Faulty.outcome_bind, houtcome] at h
    obtain ⟨rfl, hcontent⟩ := orExit_error h
    exact ⟨rfl, fun node hnode => by rw [hcontent, hothers node hnode]⟩

theorem exists_sha256Hex (data : Bytes) : ∃ digest, Serialization.sha256Hex data = some digest := by
  obtain ⟨zeros, -, hlength, hzeros⟩ := Serialization.padZeros_eq (data ++ [0x80])
  have hblocks : ∃ blocks, (Serialization.padBytes data).length = 64 * blocks := by
    unfold Serialization.padBytes
    dsimp only
    rw [Serialization.foldl_append_singleton, hzeros]
    simp only [List.length_append, List.length_replicate, List.length_map, List.length_cons,
      List.length_nil] at hlength ⊢
    exact ⟨(data.length + 1 + zeros + 8) / 64, by omega⟩
  obtain ⟨blocks, hblocks⟩ := hblocks
  obtain ⟨final, hfinal, -⟩ := Serialization.hashBlocks_eq hblocks blocks 0 (Nat.zero_add _)
    Serialization.initialState Serialization.registers_initialState
  refine ⟨Serialization.toHex final, ?_⟩
  rw [Nat.mul_zero] at hfinal
  simp [Serialization.sha256Hex, hfinal]

/-- The manifest of a report's text, when it is the text of one. -/
def Machine.Lists (machine : Machine ι F D) (resultJson manifest : Bytes) : Prop :=
  ∃ digest, Serialization.sha256Hex resultJson = some digest ∧
    buildManifest machine.dumpIndented "1.0" generator [⟨"result.json", digest⟩] = .ok manifest

/-- What a process prints when both files are written. -/
def summary (outputDir : String) (verdict : Verdict) : String :=
  "verdict: " ++ verdictString verdict ++ "\n" ++ ("wrote: " ++ resultPath outputDir ++ "\n") ++
    ("wrote: " ++ manifestPath outputDir ++ "\n")

/-- The process after both files have been taken. -/
def Machine.delivered (machine : Machine ι F D) (outputDir : String) (resultJson manifest : Bytes)
    (process : Process ι) : Process ι :=
  machine.stored (manifestPath outputDir) manifest
    (machine.stored (resultPath outputDir) resultJson process)

theorem writeOutputs_ok_iff {outputDir : String} {verdict : Verdict} {resultJson : Bytes}
    {process process' : Process ι} {code : ℕ} :
    Faulty.outcome (writeOutputs machine outputDir verdict resultJson) process =
        (.ok code, process') ↔
      code = 0 ∧ machine.Takes (resultPath outputDir) ∧ machine.Takes (manifestPath outputDir) ∧
        ∃ manifest, machine.Lists resultJson manifest ∧
          process' = { machine.delivered outputDir resultJson manifest process with
            out := process.out ++ summary outputDir verdict } := by
  obtain ⟨digest, hdigest⟩ := exists_sha256Hex resultJson
  unfold writeOutputs
  rw [hdigest, Faulty.outcome_bind_ok_iff]
  dsimp only
  constructor
  · rintro ⟨_, _, hfirst, h⟩
    obtain ⟨hresult, rfl, rfl⟩ := write_ok_iff.mp hfirst
    rw [Faulty.outcome_bind_ok_iff] at h
    obtain ⟨manifest, _, hbuilt, h⟩ := h
    obtain ⟨hmanifest, rfl⟩ := orExit_ok_iff.mp hbuilt
    rw [Faulty.outcome_bind_ok_iff] at h
    obtain ⟨_, _, hsecond, h⟩ := h
    obtain ⟨htaken, rfl, rfl⟩ := write_ok_iff.mp hsecond
    simp only [printOut, Faulty.outcome_bind, Faulty.outcome_modify, Faulty.outcome_pure,
      Prod.mk.injEq, Except.ok.injEq] at h
    obtain ⟨rfl, rfl⟩ := h
    refine ⟨rfl, hresult, htaken, manifest, ⟨digest, hdigest, hmanifest⟩, ?_⟩
    simp only [summary, String.append_assoc]
    rfl
  · rintro ⟨rfl, hresult, htaken, manifest, ⟨digest', hdigest', hmanifest⟩, rfl⟩
    obtain rfl := Option.some.inj (hdigest.symm.trans hdigest')
    refine ⟨_, _, write_ok_iff.mpr ⟨hresult, rfl, rfl⟩, ?_⟩
    rw [Faulty.outcome_bind_ok_iff]
    refine ⟨_, _, orExit_ok_iff.mpr ⟨hmanifest, rfl⟩, ?_⟩
    rw [Faulty.outcome_bind_ok_iff]
    refine ⟨_, _, write_ok_iff.mpr ⟨htaken, rfl, rfl⟩, ?_⟩
    simp only [printOut, Faulty.outcome_bind, Faulty.outcome_modify, Faulty.outcome_pure, summary,
      String.append_assoc]
    rfl

/-- The report's file is written first; the manifest's only after all of the report was taken. -/
theorem writeOutputs_error {outputDir : String} {verdict : Verdict} {resultJson : Bytes}
    {process process' : Process ι} {ending : Ending}
    (h : Faulty.outcome (writeOutputs machine outputDir verdict resultJson) process =
      (.error ending, process')) :
    ending = .exit 1 ∧ ((∀ node, node ≠ machine.resolve (resultPath outputDir) →
        process'.content node = process.content node) ∨
      machine.Takes (resultPath outputDir) ∧ (∃ manifest, machine.Lists resultJson manifest) ∧
        ∀ node, node ≠ machine.resolve (manifestPath outputDir) → process'.content node =
          (machine.stored (resultPath outputDir) resultJson process).content node) := by
  obtain ⟨digest, hdigest⟩ := exists_sha256Hex resultJson
  unfold writeOutputs at h
  rw [hdigest, Faulty.outcome_bind_error_iff] at h
  dsimp only at h
  rcases h with hfirst | ⟨_, _, hfirst, h⟩
  · exact (write_error hfirst).imp_right .inl
  obtain ⟨hresult, rfl, rfl⟩ := write_ok_iff.mp hfirst
  rw [Faulty.outcome_bind_error_iff] at h
  rcases h with hbuilt | ⟨manifest, _, hbuilt, h⟩
  · obtain ⟨hending, hcontent⟩ := orExit_error hbuilt
    refine ⟨hending, .inl fun node hnode => ?_⟩
    rw [hcontent, stored_of_ne hnode]
  obtain ⟨hmanifest, rfl⟩ := orExit_ok_iff.mp hbuilt
  rw [Faulty.outcome_bind_error_iff] at h
  rcases h with hsecond | ⟨_, _, -, h⟩
  · obtain ⟨hending, hothers⟩ := write_error hsecond
    exact ⟨hending, .inr ⟨hresult, ⟨manifest, digest, hdigest, hmanifest⟩, hothers⟩⟩
  · simp only [printOut, Faulty.outcome_bind, Faulty.outcome_modify, Faulty.outcome_pure,
      Prod.mk.injEq, reduceCtorEq, false_and] at h

end

/-- The code a process ends with, where its behaviour is defined. -/
def exitCode : Except Ending ℕ → Option ℕ
  | .ok code | .error (.exit code) => some code
  | .error .undefined => none

/-- What a computation may return, and how it may end before. -/
def Ends {α : Type} (Q : α → Prop) : Except Ending α → Prop
  | .ok a => Q a
  | .error ending => ending = .exit 1 ∨ ending = .exit 2 ∨ ending = .undefined

theorem Ends.exitCode {ended : Except Ending ℕ} (h : Ends (· = 0) ended) :
    exitCode ended ∈ [some 0, some 1, some 2, none] := by
  cases ended with
  | ok code =>
    obtain rfl : code = 0 := h
    simp [Cli.exitCode]
  | error ending =>
    rcases h with rfl | rfl | rfl
    all_goals simp [Cli.exitCode]

theorem Ends.exitCode_eq_zero {ended : Except Ending ℕ} (h : Ends (· = 0) ended) :
    Cli.exitCode ended = some 0 ↔ ended = .ok 0 := by
  cases ended with
  | ok code =>
    obtain rfl : code = 0 := h
    simp [Cli.exitCode]
  | error ending =>
    rcases h with rfl | rfl | rfl
    all_goals simp [Cli.exitCode]

/-- A computation that leaves the files. -/
def Harmless {α : Type} (m : Program ι α) (Q : α → Prop) : Prop :=
  ∀ process, (Faulty.outcome m process).2.content = process.content ∧
    Ends Q (Faulty.outcome m process).1

section

variable {α β : Type} {Q : α → Prop} {R : β → Prop}

theorem Harmless.pure {a : α} (h : Q a) : Harmless (pure a : Program ι α) Q := fun _ => ⟨rfl, h⟩

theorem Harmless.bind {m : Program ι α} {f : α → Program ι β} (hm : Harmless m Q)
    (hf : ∀ a, Q a → Harmless (f a) R) : Harmless (m >>= f) R := by
  intro process
  obtain ⟨hcontent, hresult⟩ := hm process
  rw [Faulty.outcome_bind]
  rcases hrun : Faulty.outcome m process with ⟨ending | a, process'⟩
  · rw [hrun] at hcontent hresult
    exact ⟨hcontent, hresult⟩
  · rw [hrun] at hcontent hresult
    exact ⟨(hf a hresult process').1.trans hcontent, (hf a hresult process').2⟩

theorem Harmless.printOut (text : String) :
    Harmless (printOut text : Program ι Unit) fun _ => True := fun _ => ⟨rfl, trivial⟩

theorem Harmless.get_bind {f : Process ι → Program ι α} (hf : ∀ p, Harmless (f p) Q) :
    Harmless (get >>= f) Q := by
  intro process
  rw [Faulty.outcome_bind]
  exact hf process process

theorem Harmless.orExit (result : Result α) :
    Harmless (orExit result : Program ι α) fun _ => True := by
  cases result with
  | ok a => exact .pure trivial
  | error error =>
    intro process
    simp only [Cli.orExit, printError, printErr, Faulty.outcome_bind, Faulty.outcome_modify,
      Faulty.outcome_throw]
    exact ⟨trivial, .inl rfl⟩

theorem Harmless.usageExit (text : String) : Harmless (usageExit text : Program ι α) Q := by
  intro process
  rw [usageExit_outcome]
  exact ⟨rfl, .inr (.inl rfl)⟩

theorem Harmless.runDecoding (decoding : Decoding α) :
    Harmless (runDecoding decoding : Program ι (Result α)) fun _ => True := by
  unfold Cli.runDecoding
  rcases (Faulty.outcome decoding []).1 with (error | _) | a
  · exact .pure trivial
  · exact fun process => ⟨rfl, .inr (.inr rfl)⟩
  · exact .pure trivial

end

section

variable {F D : Type} [DecidableEq ι] {machine : Machine ι F D}

/-- The files that an inspection may change: its report's, and its manifest's when all of the
report has been handed over. -/
def Machine.Output (machine : Machine ι F D) (outputDir : String) (resultJson : Bytes)
    (content : ι → Option Bytes) (node : ι) : Prop :=
  node = machine.resolve (resultPath outputDir) ∨
    node = machine.resolve (manifestPath outputDir) ∧ machine.Takes (resultPath outputDir) ∧
      (∃ manifest, machine.Lists resultJson manifest) ∧
      (node ≠ machine.resolve (resultPath outputDir) →
        content (machine.resolve (resultPath outputDir)) =
          some (partOf (machine.losesOnClose (machine.resolve (resultPath outputDir))) resultJson))

theorem output_of_stored {outputDir : String} {resultJson : Bytes} {process process' : Process ι}
    (hresult : machine.Takes (resultPath outputDir))
    (hmanifest : ∃ manifest, machine.Lists resultJson manifest)
    (h : ∀ node, node ≠ machine.resolve (manifestPath outputDir) → process'.content node =
      (machine.stored (resultPath outputDir) resultJson process).content node)
    {node : ι} (hnode : process'.content node ≠ process.content node) :
    machine.Output outputDir resultJson process'.content node := by
  by_cases hreport : node = machine.resolve (resultPath outputDir)
  · exact .inl hreport
  have hlisted : node = machine.resolve (manifestPath outputDir) := by
    by_contra hother
    exact hnode ((h node hother).trans (stored_of_ne hreport _ _))
  refine .inr ⟨hlisted, hresult, hmanifest, fun _ => ?_⟩
  rw [h _ fun heq => hreport (hlisted.trans heq.symm), stored_resolve]

theorem writeOutputs_output {outputDir : String} {verdict : Verdict} {resultJson : Bytes}
    {process process' : Process ι} {ended : Except Ending ℕ}
    (h : Faulty.outcome (writeOutputs machine outputDir verdict resultJson) process =
      (ended, process')) :
    (ended = .ok 0 ∨ ended = .error (.exit 1)) ∧
      ∀ node, process'.content node ≠ process.content node →
        machine.Output outputDir resultJson process'.content node := by
  cases ended with
  | ok code =>
    obtain ⟨rfl, hresult, -, manifest, hmanifest, rfl⟩ := writeOutputs_ok_iff.mp h
    refine ⟨.inl rfl, fun node => output_of_stored hresult ⟨manifest, hmanifest⟩ ?_⟩
    exact fun node hnode => stored_of_ne hnode _ _
  | error ending =>
    obtain ⟨rfl, hothers | ⟨hresult, hmanifest, hothers⟩⟩ := writeOutputs_error h
    · refine ⟨.inr rfl, fun node hnode => .inl ?_⟩
      by_contra hother
      exact hnode (hothers node hother)
    · exact ⟨.inr rfl, fun node => output_of_stored hresult hmanifest hothers⟩

end

section

variable {F D : Type} [FloatArith D] [FloatIntegers D] {machine : Machine ι F D}

theorem runValidateConfig_harmless (configPath : String) :
    Harmless (runValidateConfig machine configPath) (· = 0) := by
  unfold runValidateConfig
  exact .get_bind fun process => .bind (.orExit _) fun text _ => .bind (.orExit _) fun config _ =>
    .bind (.orExit _) fun _ _ => .bind (.printOut _) fun _ _ => .pure rfl

end

section

variable {F D : Type} [FloatArith F] [FloatArith D] [Floats F D] [FloatBits F] [FloatIntegers D]
  {machine : Machine ι F D}

/-- An inspection of files: each is read, and every stage of the pipeline succeeds. -/
def Inspects (machine : Machine ι F D) (content : ι → Option Bytes)
    (configPath referencePath scanPath : String) (result : InspectionResult D) : Prop :=
  ∃ text config validated referenceFormat scanFormat reference scan pipeline,
    readTextFile machine content configPath = .ok text ∧
    parseConfig machine.json text = .ok config ∧ validateConfig config = .ok validated ∧
    formatFromPath referencePath = some referenceFormat ∧
    formatFromPath scanPath = some scanFormat ∧
    (Faulty.outcome (readSurface machine content referencePath referenceFormat
      validated.input.referenceUnit validated.input.referenceFrame) []).1 = .ok reference ∧
    (Faulty.outcome (readSurface machine content scanPath scanFormat
      validated.input.scanUnit validated.input.scanFrame) []).1 = .ok scan ∧
    InspectionPipeline.create config = .ok pipeline ∧
    pipeline.run machine.host machine.scheduler machine.clock reference.view scan.view
      ⟨none, []⟩ = .ok result

theorem inspectFiles_harmless (machine : Machine ι F D)
    (configPath referencePath scanPath : String) :
    Harmless (inspectFiles machine configPath referencePath scanPath) fun _ => True := by
  unfold inspectFiles
  refine .get_bind fun process => .bind (.orExit _) fun text _ => .bind (.orExit _) fun config _ =>
    .bind (.orExit _) fun validated _ => ?_
  cases formatFromPath referencePath with
  | none => exact .usageExit _
  | some referenceFormat =>
    cases formatFromPath scanPath with
    | none => exact .usageExit _
    | some scanFormat =>
      exact .bind (.bind (.runDecoding _) fun _ _ => .orExit _) fun reference _ =>
        .bind (.bind (.runDecoding _) fun _ _ => .orExit _) fun scan _ =>
          .bind (.orExit _) fun pipeline _ => .orExit _

theorem inspectFiles_ok_iff {configPath referencePath scanPath : String}
    {process process' : Process ι} {result : InspectionResult D} :
    Faulty.outcome (inspectFiles machine configPath referencePath scanPath) process =
        (.ok result, process') ↔
      Inspects machine process.content configPath referencePath scanPath result ∧
        process' = process := by
  unfold inspectFiles Inspects
  rw [Faulty.outcome_bind]
  simp only [Faulty.outcome_get, orExit_bind_ok_iff]
  cases formatFromPath referencePath with
  | none => simp [usageExit_outcome]
  | some referenceFormat =>
    cases formatFromPath scanPath with
    | none => simp [usageExit_outcome]
    | some scanFormat =>
      simp only [runDecoding_bind_ok_iff, orExit_bind_ok_iff, orExit_ok_iff]
      grind

/-- The command lines of an inspection. -/
inductive Inspection : List String → String → String → String → String → Prop
  | here (configPath referencePath scanPath : String) :
    Inspection ["inspect", configPath, referencePath, scanPath] configPath referencePath scanPath ""
  | output (configPath referencePath scanPath outputDir : String) :
    Inspection ["inspect", configPath, referencePath, scanPath, "--output", outputDir]
      configPath referencePath scanPath outputDir

variable [DecidableEq ι]

theorem main_inspect {arguments : List String}
    {configPath referencePath scanPath outputDir : String}
    (h : Inspection arguments configPath referencePath scanPath outputDir) :
    main machine arguments = runInspect machine configPath referencePath scanPath outputDir := by
  cases h with
  | here => rfl
  | output => rfl

/-- Every other command line leaves the files. -/
theorem main_cases (machine : Machine ι F D) (arguments : List String) :
    (∃ configPath referencePath scanPath outputDir,
      Inspection arguments configPath referencePath scanPath outputDir) ∨
      Harmless (main machine arguments) (· = 0) := by
  have hhelp : Harmless (do printHelp; return kExitOk : Program ι ℕ) (· = 0) :=
    .bind (.printOut _) fun _ _ => .pure rfl
  unfold main
  split
  · exact .inr hhelp
  split_ifs
  · exact .inr hhelp
  · exact .inr (.bind (.printOut _) fun _ _ => .pure rfl)
  · right
    split
    · exact runValidateConfig_harmless _
    · exact .usageExit _
  · rename_i hinspect
    subst hinspect
    split
    · split
      · exact .inl ⟨_, _, _, _, .here _ _ _⟩
      · exact .inl ⟨_, _, _, _, .output _ _ _ _⟩
      · exact .inr (.usageExit _)
    · exact .inr (.usageExit _)
  · exact .inr (.usageExit _)

/-- A file is changed by an inspection only, after its report has been written out. -/
theorem runInspect_output (machine : Machine ι F D)
    (configPath referencePath scanPath outputDir : String) (process : Process ι) :
    let ran := Faulty.outcome (runInspect machine configPath referencePath scanPath outputDir)
      process
    Ends (· = 0) ran.1 ∧
      ∀ node, ran.2.content node ≠ process.content node → ∃ result resultJson,
        Inspects machine process.content configPath referencePath scanPath result ∧
          serializeResult machine.json result = .ok resultJson ∧
          (ran.1 = .ok 0 ∨ ran.1 = .error (.exit 1)) ∧
          machine.Output outputDir resultJson ran.2.content node := by
  have hfiles := inspectFiles_harmless machine configPath referencePath scanPath process
  rw [runInspect, Faulty.outcome_bind]
  rcases hinspected : Faulty.outcome (inspectFiles machine configPath referencePath scanPath)
    process with ⟨ending | result, process'⟩
  · rw [hinspected] at hfiles
    exact ⟨hfiles.2, fun node hnode => absurd (congrFun hfiles.1 node) hnode⟩
  · obtain ⟨hinspects, rfl⟩ := inspectFiles_ok_iff.mp hinspected
    dsimp only
    rw [Faulty.outcome_bind]
    cases hserialized : serializeResult machine.json result with
    | error error =>
      rcases herror : Faulty.outcome (orExit (.error error : Result Bytes)) process'
        with ⟨ending | _, process''⟩
      · obtain ⟨rfl, hcontent⟩ := orExit_error herror
        exact ⟨.inl rfl, fun node hnode => absurd (congrFun hcontent node) hnode⟩
      · cases (orExit_ok_iff.mp herror).1
    | ok resultJson =>
      obtain ⟨hended, houtput⟩ := writeOutputs_output (Prod.eta
        (Faulty.outcome (writeOutputs machine outputDir result.verdict resultJson) process')).symm
      refine ⟨?_, fun node hnode =>
        ⟨result, resultJson, hinspects, hserialized, hended, houtput node hnode⟩⟩
      change Ends (· = 0) (Faulty.outcome (writeOutputs machine outputDir result.verdict resultJson)
        process').1
      rcases hended with hended | hended
      · rw [hended]
        rfl
      · rw [hended]
        exact .inl rfl

/-- Every command line ends with one of three codes, or outside what the language defines. The only
files it changes are those of an inspection whose report was written out, and it does not end with
the code of a wrong use then; the manifest is touched only after the report was handed over. -/
theorem main_contract (machine : Machine ι F D) (arguments : List String) (process : Process ι) :
    exitCode (Faulty.outcome (main machine arguments) process).1 ∈
        [some 0, some 1, some 2, none] ∧
      ∀ node, (Faulty.outcome (main machine arguments) process).2.content node ≠
          process.content node →
        ∃ configPath referencePath scanPath outputDir result resultJson,
          Inspection arguments configPath referencePath scanPath outputDir ∧
          Inspects machine process.content configPath referencePath scanPath result ∧
          serializeResult machine.json result = .ok resultJson ∧
          ((Faulty.outcome (main machine arguments) process).1 = .ok 0 ∨
            (Faulty.outcome (main machine arguments) process).1 = .error (.exit 1)) ∧
          machine.Output outputDir resultJson
            (Faulty.outcome (main machine arguments) process).2.content node := by
  rcases main_cases machine arguments with
    ⟨configPath, referencePath, scanPath, outputDir, hinspection⟩ | hharmless
  · rw [main_inspect hinspection]
    obtain ⟨hcode, hchanged⟩ :=
      runInspect_output machine configPath referencePath scanPath outputDir process
    refine ⟨hcode.exitCode, fun node hnode => ?_⟩
    obtain ⟨result, resultJson, hinspects, hserialized, hended, houtput⟩ := hchanged node hnode
    exact ⟨configPath, referencePath, scanPath, outputDir, result, resultJson, hinspection,
      hinspects, hserialized, hended, houtput⟩
  · refine ⟨(hharmless process).2.exitCode, fun node hnode => ?_⟩
    exact absurd (congrFun (hharmless process).1 node) hnode

theorem runInspect_ok_iff {configPath referencePath scanPath outputDir : String}
    {process process' : Process ι} {code : ℕ} :
    Faulty.outcome (runInspect machine configPath referencePath scanPath outputDir) process =
        (.ok code, process') ↔
      ∃ result resultJson, Inspects machine process.content configPath referencePath scanPath
          result ∧ serializeResult machine.json result = .ok resultJson ∧
        code = 0 ∧ machine.Takes (resultPath outputDir) ∧ machine.Takes (manifestPath outputDir) ∧
        ∃ manifest, machine.Lists resultJson manifest ∧
          process' = { machine.delivered outputDir resultJson manifest process with
            out := process.out ++ summary outputDir result.verdict } := by
  unfold runInspect
  rw [Faulty.outcome_bind_ok_iff]
  simp only [inspectFiles_ok_iff, orExit_bind_ok_iff, writeOutputs_ok_iff]
  constructor
  · rintro ⟨result, _, ⟨hinspects, rfl⟩, resultJson, h⟩
    exact ⟨result, resultJson, hinspects, h⟩
  · rintro ⟨result, resultJson, hinspects, h⟩
    exact ⟨result, process, ⟨hinspects, rfl⟩, resultJson, h⟩

/-- A library that writes every document of valid texts. -/
def WritesValid (dump : Json D → Except Exn Bytes) : Prop :=
  ∀ document, Json.Writable isValidUtf8 document → ∃ text, dump document = .ok text

omit [DecidableEq ι] in
theorem Inspects.serialized {configPath referencePath scanPath : String}
    {content : ι → Option Bytes} {result : InspectionResult D}
    (h : Inspects machine content configPath referencePath scanPath result)
    (hclock : isValidUtf8 machine.clock.timestampUtc = true)
    (hjson : WritesValid machine.json.dump) :
    ∃ resultJson, serializeResult machine.json result = .ok resultJson := by
  obtain ⟨-, -, -, -, -, reference, scan, pipeline, -, -, -, -, -, -, -, -, hrun⟩ := h
  have htexts : ∀ text ∈ result.provenance.texts, isValidUtf8 text = true := by
    rw [provenance_of_runImpl hrun]
    simp [Provenance.texts, provenance, versionString, pipeline.config.schema,
      pipeline.config.profileUtf8, hclock, isValidUtf8_utf8]
    decide
  obtain ⟨text, htext⟩ := hjson _ ((writable_serializeResultJson_iff result).mpr htexts)
  exact ⟨text, by simp [serializeResult, htext, Except.mapError]⟩

omit [FloatArith F] [FloatArith D] [Floats F D] [FloatBits F] [FloatIntegers D] [DecidableEq ι] in
theorem exists_manifest (hmanifest : WritesValid machine.dumpIndented) (resultJson : Bytes) :
    ∃ manifest, machine.Lists resultJson manifest := by
  obtain ⟨digest, hdigest⟩ := exists_sha256Hex resultJson
  obtain ⟨manifest, hdump⟩ := hmanifest
    (manifestDocument "1.0" generator [⟨"result.json", digest⟩]) (by
      simp [manifestDocument, Json.writable_objectOf_iff, Json.writable_array_iff])
  exact ⟨manifest, digest, hdigest, by simp [buildManifest, hdump, Except.mapError]⟩

/-- An inspection ends with success exactly when the inputs give a report, whatever its verdict, and
both files take their texts. It leaves these two files and its summary; files that differ and keep
what they took hold the report and a manifest that lists its digest. -/
theorem inspect_succeeds {arguments : List String}
    {configPath referencePath scanPath outputDir : String}
    (hinspection : Inspection arguments configPath referencePath scanPath outputDir)
    (hclock : isValidUtf8 machine.clock.timestampUtc = true)
    (hjson : WritesValid machine.json.dump) (hmanifest : WritesValid machine.dumpIndented)
    (process : Process ι) :
    (exitCode (Faulty.outcome (main machine arguments) process).1 = some 0 ↔
      (∃ result, Inspects machine process.content configPath referencePath scanPath result) ∧
        machine.Takes (resultPath outputDir) ∧ machine.Takes (manifestPath outputDir)) ∧
    ∀ process', Faulty.outcome (main machine arguments) process = (.ok 0, process') →
      ∃ result resultJson manifest,
        Inspects machine process.content configPath referencePath scanPath result ∧
        serializeResult machine.json result = .ok resultJson ∧
        machine.Lists resultJson manifest ∧
        process' = { machine.delivered outputDir resultJson manifest process with
          out := process.out ++ summary outputDir result.verdict } ∧
        (machine.resolve (resultPath outputDir) ≠ machine.resolve (manifestPath outputDir) →
          machine.losesOnClose (machine.resolve (resultPath outputDir)) = none →
          machine.losesOnClose (machine.resolve (manifestPath outputDir)) = none →
          process'.content (machine.resolve (resultPath outputDir)) = some resultJson ∧
            process'.content (machine.resolve (manifestPath outputDir)) = some manifest) := by
  rw [main_inspect hinspection]
  constructor
  · have hended := (runInspect_output machine configPath referencePath scanPath outputDir process).1
    rw [hended.exitCode_eq_zero]
    constructor
    · intro hzero
      obtain ⟨result, -, hinspects, -, -, hresult, htaken, -⟩ :=
        runInspect_ok_iff.mp (Prod.ext hzero rfl)
      exact ⟨⟨result, hinspects⟩, hresult, htaken⟩
    · rintro ⟨⟨result, hinspects⟩, hresult, htaken⟩
      obtain ⟨resultJson, hserialized⟩ := hinspects.serialized hclock hjson
      obtain ⟨manifest, hlists⟩ := exists_manifest hmanifest resultJson
      exact congrArg Prod.fst (runInspect_ok_iff.mpr
        ⟨result, resultJson, hinspects, hserialized, rfl, hresult, htaken, manifest, hlists, rfl⟩)
  · intro process' hran
    obtain ⟨result, resultJson, hinspects, hserialized, -, -, -, manifest, hlists, rfl⟩ :=
      runInspect_ok_iff.mp hran
    refine ⟨result, resultJson, manifest, hinspects, hserialized, hlists, rfl, ?_⟩
    intro hdiffer hkeepsResult hkeepsManifest
    simp only [Machine.delivered, stored_of_ne hdiffer, stored_resolve, hkeepsResult,
      hkeepsManifest, partOf, and_self]

end

def plateReport : String :=
  "\x7b\"coverage\":\x7b\"coverage_ratio\":0.1111111111111111,\"covered_count\":1," ++
    "\"input_invalid\":0,\"no_neighbor\":0,\"scan_boundary\":8,\"valid_count\":9\x7d," ++
    "\"deviations\":\x7b\"input_invalid\":0,\"max_abs_mm\":0.0,\"mean_signed_mm\":0.0," ++
    "\"no_neighbor\":0,\"normal_mismatch\":0,\"normal_missing\":0,\"p95_abs_mm\":0.0," ++
    "\"reference_boundary\":8,\"rms_mm\":0.0,\"valid_count\":1\x7d," ++
    "\"diagnostics\":[\x7b\"code\":\"invalid_input\",\"context\":\x7b\x7d," ++
    "\"message\":\"no initial pose provided; using identity\"," ++
    "\"stage\":\"registration\"\x7d],\"provenance\":\x7b\"deterministic\":true," ++
    "\"generator_version\":\"0.1.0\",\"profile\":\"plate\",\"random_seed\":0,\"run_id\":\"\"," ++
    "\"schema_version\":\"1.0\",\"thread_count\":1," ++
    "\"timestamp_utc\":\"1970-01-01T00:00:00Z\"\x7d,\"regions\":[]," ++
    "\"registration\":\x7b\"actual_backend\":\"cpu\",\"converged\":true," ++
    "\"execution_scope\":\"cpu\",\"final_pose\":\x7b\"matrix\":[1.0,0.0,0.0,0.0,0.0,1.0,0.0," ++
    "0.0,0.0,0.0,1.0,0.0,0.0,0.0,0.0,1.0],\"source_frame\":\"r\",\"target_frame\":\"r\"\x7d," ++
    "\"initial_pose\":\x7b\"matrix\":[1.0,0.0,0.0,0.0,0.0,1.0,0.0,0.0,0.0,0.0,1.0,0.0,0.0," ++
    "0.0,0.0,1.0],\"source_frame\":\"r\",\"target_frame\":\"r\"\x7d,\"inlier_rmse_mm\":0.0," ++
    "\"iterations\":1,\"method\":\"point_to_point\",\"overlap_ratio\":1.0," ++
    "\"requested_backend\":\"cpu\",\"rmse_metric\":\"euclidean_mm\"," ++
    "\"termination_reason\":\"converged\",\"valid_pairs\":9\x7d,\"schema_version\":\"1.0\"," ++
    "\"timings\":[\x7b\"duration_us\":0,\"stage\":\"normalize\"\x7d,\x7b\"duration_us\":0," ++
    "\"stage\":\"preprocess\"\x7d,\x7b\"duration_us\":0,\"stage\":\"registration\"\x7d," ++
    "\x7b\"duration_us\":0,\"stage\":\"registration_gate\"\x7d,\x7b\"duration_us\":0," ++
    "\"stage\":\"transform\"\x7d,\x7b\"duration_us\":0,\"stage\":\"compare\"\x7d," ++
    "\x7b\"duration_us\":0,\"stage\":\"coverage_gate\"\x7d,\x7b\"duration_us\":0," ++
    "\"stage\":\"detect\"\x7d],\"verdict\":\"pass\"\x7d"

def plateManifest : String :=
  "\x7b\n  \"files\": [\n    \x7b\n      \"path\": \"result.json\",\n" ++
    "      \"sha256\": \"fdc70f02622166d14c707bc747d32c6a8d7e0f4583cd076397973c1b6e317079\"\n" ++
    "    \x7d\n  ],\n  \"generator\": \"pcad 0.1.0\",\n  \"schema_version\": \"1.0\"\n\x7d"

def plateLimits : String :=
  "\x7b\"comparison\":\x7b\"boundary_exclusion_mm\":0.0,\"max_normal_angle_deg\":90.0," ++
    "\"max_search_distance_mm\":1.0,\"min_valid_coverage_ratio\":0.0\x7d," ++
    "\"detection\":\x7b\"cluster_tolerance_mm\":1.0,\"measurement_error_budget_mm\":0.0," ++
    "\"min_cluster_points\":1,\"negative_threshold_mm\":-0.5," ++
    "\"positive_threshold_mm\":0.5\x7d,\"execution\":\x7b\"backend\":\"cpu\"," ++
    "\"deterministic\":true,\"random_seed\":0,\"thread_count\":1\x7d," ++
    "\"input\":\x7b\"reference_frame\":\"r\",\"reference_unit\":\"millimeter\"," ++
    "\"scan_frame\":\"r\",\"scan_unit\":\"millimeter\"\x7d," ++
    "\"preprocess\":\x7b\"boundary_radius_mm\":2.0,\"normal_min_neighbors\":3," ++
    "\"normal_radius_mm\":1.45,\"voxel_size_mm\":1.0\x7d,\"profile\":\"plate\"," ++
    "\"registration\":\x7b\"huber_delta_mm\":1.0,\"max_correspondence_distance_mm\":1.0," ++
    "\"max_iterations\":4,\"method\":\"point_to_point\",\"residual_epsilon_mm\":0.001," ++
    "\"rotation_epsilon_rad\":0.001,\"translation_epsilon_mm\":0.001\x7d," ++
    "\"registration_gate\":\x7b\"max_inlier_rmse_mm\":1.0," ++
    "\"max_rotation_from_initial_deg\":1.0,\"max_translation_from_initial_mm\":1.0," ++
    "\"min_overlap_ratio\":0.5,\"min_valid_pairs\":1\x7d,\"schema_version\":\"1.0\"\x7d"

def plateCloud : String :=
  "# .PCD v0.7 - Point Cloud Data file format\nVERSION 0.7\n" ++
    "FIELDS x y z normal_x normal_y normal_z\nSIZE 4 4 4 4 4 4\nTYPE F F F F F F\n" ++
    "COUNT 1 1 1 1 1 1\nWIDTH 3\nHEIGHT 3\nVIEWPOINT 0 0 0 1 0 0 0\nPOINTS 9\nDATA ascii\n" ++
    "0 0 0 0 0 1\n1 0 0 0 0 1\n2 0 0 0 0 1\n0 1 0 0 0 1\n1 1 0 0 0 1\n2 1 0 0 0 1\n" ++
    "0 2 0 0 0 1\n1 2 0 0 0 1\n2 2 0 0 0 1\n"

instance : FloatBits (Exact ℚ) where
  bits v := (Binary32.ofExact false v).bits
  ofBits bits := (Binary32.mk bits).toExact

/-- The cloud that `plateCloud` is loaded as. -/
def plate : PCLPointCloud2 where
  height := 3
  width := 3
  fields := [⟨"x", 0, 7, 1⟩, ⟨"y", 4, 7, 1⟩, ⟨"z", 8, 7, 1⟩, ⟨"normal_x", 12, 7, 1⟩,
    ⟨"normal_y", 16, 7, 1⟩, ⟨"normal_z", 20, 7, 1⟩]
  pointStep := 24
  rowStep := 72
  data :=
    let zero := [0, 0, 0, 0]
    let one := [0, 0, 128, 63]
    let coordinates := [zero, one, [0, 0, 0, 64]]
    coordinates.flatMap fun y => coordinates.flatMap fun x =>
      x ++ y ++ zero ++ zero ++ zero ++ one
  isDense := true

def plateMachine : Machine String (Exact ℚ) (Exact ℚ) where
  host := exactHost
  scheduler := .sequential
  clock := ⟨utf8 "1970-01-01T00:00:00Z", fun _ => 0⟩
  json := ⟨fun _ => .ok (utf8 plateReport), fun _ => .ok (configToJson exactConfig)⟩
  dumpIndented _ := .ok (utf8 plateManifest)
  load _ _ _ := .ok (some plate)
  resolve := id
  refusesReading _ := false
  failsReading _ := none
  refusesWriting _ := false
  failsWriting _ := none
  losesOnClose _ := none

def plateFiles : Process String where
  content
    | "limits.json" => some (utf8 plateLimits)
    | "plate.pcd" => some (utf8 plateCloud)
    | _ => none
  out := ""
  err := ""

theorem inspects_plate : ∃ result,
    Inspects plateMachine plateFiles.content "limits.json" "plate.pcd" "plate.pcd" result := by
  have hconfig : parseConfig plateMachine.json (utf8 plateLimits) = .ok exactConfig := by
    decide +kernel
  have hlimits : (validateConfig exactConfig).map (fun validated =>
      (validated.input.referenceUnit, validated.input.referenceFrame, validated.input.scanUnit,
        validated.input.scanFrame, (InspectionPipeline.run ⟨validated⟩ exactHost .sequential
          plateMachine.clock (exactGrid 3 3 3 true fun _ _ => 0)
          (exactGrid 3 3 3 true fun _ _ => 0) ⟨none, []⟩).isOk)) =
      .ok (.millimeter, exactFrame, .millimeter, exactFrame, true) := by decide +kernel
  have hsurface : ((Faulty.outcome (readSurface plateMachine plateFiles.content "plate.pcd" .pcd
      .millimeter exactFrame) []).1.map fun surface => surface.view) =
      .ok (exactGrid 3 3 3 true fun _ _ => 0) := by decide +kernel
  obtain ⟨validated, hvalidated, hinput⟩ := map_ok_iff.mp hlimits
  obtain ⟨surface, hread, hview⟩ := map_ok_iff.mp hsurface
  simp only [Prod.mk.injEq] at hinput
  obtain ⟨hreferenceUnit, hreferenceFrame, hscanUnit, hscanFrame, hrun⟩ := hinput
  obtain ⟨result, hresult⟩ := exists_ok hrun
  refine ⟨result, utf8 plateLimits, exactConfig, validated, .pcd, .pcd, surface, surface,
    ⟨validated⟩, rfl, hconfig, hvalidated, by decide +kernel, by decide +kernel, ?_, ?_, ?_, ?_⟩
  · rw [hreferenceUnit, hreferenceFrame, hread]
  · rw [hscanUnit, hscanFrame, hread]
  · rw [InspectionPipeline.create, hvalidated]
    rfl
  · rw [hview]
    exact hresult

/-- The inspection of the plate ends with success. -/
theorem inspect_succeeds_plate : exitCode (Faulty.outcome (main plateMachine
    ["inspect", "limits.json", "plate.pcd", "plate.pcd"]) plateFiles).1 = some 0 :=
  (inspect_succeeds (.here "limits.json" "plate.pcd" "plate.pcd") (by decide +kernel)
    (fun _ _ => ⟨_, rfl⟩) (fun _ _ => ⟨_, rfl⟩) plateFiles).1.mpr
      ⟨inspects_plate, ⟨rfl, rfl⟩, rfl, rfl⟩

end PointcloudAd.Cli
