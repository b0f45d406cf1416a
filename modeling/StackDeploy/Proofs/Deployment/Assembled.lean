/-
# Deploying an assembled template again

An assembled template was never read, so it may hold what reading cannot give. Its deployed text is
read back all the same, and only one thing does not survive: a parameter whose default is null is
written with this default and read without it. Everything else agrees with the template, so that it
is deployed again exactly when it has such a parameter.
-/

import StackDeploy.Proofs.Assembly.Contents
import StackDeploy.Proofs.Deployment.Redeployment
import StackDeploy.Proofs.Template.RoundTrip

namespace StackDeploy

open Json

theorem Json.Value.NestedWithin.mono {v : Value} {depth deeper : Depth}
    (nested : v.NestedWithin depth) (le : depth ≤ deeper) : v.NestedWithin deeper := by
  induction nested generalizing deeper with
  | null => exact .null
  | bool => exact .bool _
  | number => exact .number _
  | string => exact .string _
  | array _ ih =>
      cases deeper with
      | zero => cases le
      | succ inner => exact .array fun item mem => ih item mem (Nat.le_of_succ_le_succ le)
  | object _ ih =>
      cases deeper with
      | zero => cases le
      | succ inner => exact .object fun entry mem => ih entry mem (Nat.le_of_succ_le_succ le)

/-- Only a default that is null is lost by writing and reading a parameter. -/
theorem Parameter.same_asRead_iff {p : Parameter} {depth : Depth}
    (distinct : p.Every (fun _ v => v.Distinct) depth) :
    Parameter.same p.asRead p = true ↔ p.default ≠ some .null := by
  by_cases null : p.default = some .null
  · refine iff_of_false (fun same => ?_) (not_not_intro null)
    simp only [Parameter.same, asRead, null, Bool.and_eq_true] at same
    cases same.1.2
  · rw [asRead_eq_self null]
    exact iff_of_true (same_refl distinct) null

namespace Template

variable {t : Template}

/-- A parameter declares null for its default. -/
def HasNullDefault (t : Template) : Prop :=
  ∃ entry ∈ t.parameters.entries, entry.2.default = some .null

instance (t : Template) : Decidable t.HasNullDefault :=
  inferInstanceAs (Decidable (∃ entry ∈ t.parameters.entries, entry.2.default = some .null))

theorem sameBy_parameters_asRead_iff (distinct : t.Distinct) :
    NameMap.sameBy Parameter.same t.asRead.parameters t.parameters = true ↔
      ¬ t.HasNullDefault := by
  rw [NameMap.sameBy_iff, HasNullDefault, not_exists]
  constructor
  · rintro agree ⟨name, p⟩ ⟨mem, null⟩
    have declared := NameMap.get?_eq_some_iff.2 mem
    have atName := agree name
    rw [asRead, NameMap.get?_mapValues, declared] at atName
    exact (Parameter.same_asRead_iff (distinct.parameters name p declared)).1 atName null
  · intro present name
    rw [asRead, NameMap.get?_mapValues]
    cases declared : t.parameters.get? name with
    | none => rfl
    | some p =>
        refine (Parameter.same_asRead_iff (distinct.parameters name p declared)).2 fun null => ?_
        exact present (name, p) ⟨NameMap.get?_eq_some_iff.1 declared, null⟩

/-- What is read again differs from what was written in the parameters at most. -/
theorem diff_asRead (distinct : t.Distinct) :
    t.asRead.diff t =
      ⟨.empty, .empty, .empty, t.resources.names, decide t.HasNullDefault, false⟩ := by
  have same := (SaysSame.refl distinct).diff
  obtain ⟨added, modified, deleted, -, outputs⟩ := TemplateDiff.hasChanges_eq_false_iff.1 same
  have parameters : (t.asRead.diff t).parametersChanged = decide t.HasNullDefault := by
    rw [Bool.eq_iff_iff, decide_eq_true_iff, ← not_iff_not, ← sameBy_parameters_asRead_iff distinct,
      diff, Bool.not_eq_true, Bool.not_eq_false']
  rw [TemplateDiff.mk.injEq]
  exact ⟨added, modified, deleted, (unchanged_eq_names same).1, parameters, outputs⟩

theorem sectionsMatch_asRead (distinct : t.Distinct) : t.asRead.sectionsMatch t = true :=
  (SaysSame.refl distinct).sections

theorem not_isDestructive_asRead (distinct : t.Distinct) : t.asRead.isDestructive t = false := by
  rw [isDestructive, diff_asRead distinct]
  rfl

/-- A template whose values are nested a hundred deep at most can be read back, since its own
containers take the rest of the depth. -/
theorem every_sound_of_nested (distinct : t.Distinct)
    (nested : t.Every fun _ v => v.NestedWithin 100) : t.Every Tree.Sound where
  parameters := fun name p declared =>
    have once := distinct.parameters name p declared
    have shallow := nested.parameters name p declared
    ⟨fun v stated => ⟨once.default v stated, (shallow.default v stated).mono (by decide)⟩,
      fun v mem => ⟨once.allowedValues v mem, (shallow.allowedValues v mem).mono (by decide)⟩⟩
  mappings := fun name table declared =>
    ⟨distinct.mappings name table declared, (nested.mappings name table declared).mono (by decide)⟩
  conditions := fun name term declared =>
    ⟨distinct.conditions name term declared,
      (nested.conditions name term declared).mono (by decide)⟩
  resources := fun name r declared =>
    ⟨distinct.resources name r declared,
      Value.NestedWithin.mono (nested.resources name r declared) (by decide)⟩
  outputs := fun name o declared =>
    have once := distinct.outputs name o declared
    have shallow := nested.outputs name o declared
    ⟨⟨once.value, shallow.value.mono (by decide)⟩,
      fun v stated => ⟨once.exportName v stated, (shallow.exportName v stated).mono (by decide)⟩⟩

end Template

section

variable {policy : WaitPolicy} {script : Script} {stack : String} {seen : Stack} {t : Template}
  {options : DeployOptions} {result : Except DeployError DeployReport} {calls : List PlaneCall}

/-- Over what is read of its own text, a template with a default that is null is submitted. -/
theorem DeployRun.updates_of_hasNullDefault (distinct : t.Distinct) (lossy : t.HasNullDefault)
    (based : script.baseline options = t.asRead)
    (reached : ReachesPlan script t options (some seen))
    (run : DeployRun policy script stack t options result calls) :
    ∃ request, .update request ∈ calls := by
  have changed : (t.asRead.diff t).Changed := by
    refine .parameters ?_
    rw [Template.diff_asRead distinct]
    exact decide_eq_true lossy
  have planned : ∃ request, options.plan stack true (script.baseline options) t =
      .ok (.submit request) := by
    rw [based]
    refine (DeployOptions.submits_iff stack).2 ⟨fun ⟨destructive, _⟩ => ?_, .diff changed⟩
    cases destructive.symm.trans (Template.not_isDestructive_asRead distinct)
  obtain ⟨request, planned⟩ := planned
  rcases run.of_reachesPlan reached with ⟨_, refused, _⟩ | ⟨kept, _, _⟩ | ⟨request', _, mem⟩
  · cases refused.symm.trans planned
  · cases kept.symm.trans planned
  · exact ⟨request', mem⟩

end

/-- An assembled template is read back from its own text, and the two differ in nothing, with every
id unchanged, but for parameters whose default is null. So the same assembly is deployed again with
an update exactly if it has such a parameter, and is skipped otherwise. The objects that were
brought along hold every key once. -/
theorem assembled_template_is_updated_iff (step : String) (actions : List Action)
    (settings : TemplateSettings) (steps : List ContributionStep) (t : Template)
    (built : ((Action.runAll step actions ⟨.empty, .empty⟩).2.assembler.build settings
      steps).result = .ok t)
    (brought : ∀ action ∈ actions, action.Every Value.Distinct)
    (set : settings.Every Value.Distinct)
    (contributed : ∀ step ∈ steps, step.Every Value.Distinct)
    (nested : t.Every fun _ v => v.NestedWithin 100)
    (readsBack : ∀ n ∈ t.toValue.numbers, n.ReadsBack) :
    ∃ r, Template.ofText t.text = .ok r ∧
      r.diff t = ⟨.empty, .empty, .empty, t.resources.names, decide t.HasNullDefault, false⟩ ∧
      r.sectionsMatch t = true ∧
      ∀ (policy : WaitPolicy) (script : Script) (cancelled : Bool) (stack : String)
        (options : DeployOptions) (seen : Stack), script.firstLook = .ok (some seen) →
        script.firstTemplate = .ok (some t.text) →
        options.previous = none → options.parameters = [] → options.tags = [] →
        t.validateReferences = .ok () → seen.status ∉ failedCreationStatuses →
        let run := (Rehearsal.deployer policy).deploy stack t options
          (Rehearsal.start script cancelled)
        ((∃ request, .update request ∈ run.2.calls) ↔ t.HasNullDefault) ∧
          (¬ t.HasNullDefault → (∀ call ∈ run.2.calls, ¬ call.IsSubmission) ∧
            run.1 = .ok ⟨.unchanged, .skip, r.diff t, some seen⟩) := by
  have none_given : Value.Distinct (.object []) := .object List.nodup_nil (List.forall_mem_nil _)
  have direct := Action.every_runAll (w := ⟨.empty, .empty⟩) none_given step actions
    ⟨Assembler.every_empty, NameMap.all_empty⟩ brought
  have distinct : t.Distinct :=
    Assembler.every_build none_given direct.assembler set contributed built
  have read := Template.ofText_text (Template.every_sound_of_nested distinct nested) readsBack
  have sections := Template.sectionsMatch_asRead distinct
  refine ⟨t.asRead, read, Template.diff_asRead distinct, sections, ?_⟩
  intro policy script cancelled stack options seen looked fetched unset parameters tags valid usable
  have skipped (present : ¬ t.HasNullDefault) :
      let run := (Rehearsal.deployer policy).deploy stack t options
        (Rehearsal.start script cancelled)
      (∀ call ∈ run.2.calls, ¬ call.IsSubmission) ∧
        run.1 = .ok ⟨.unchanged, .skip, t.asRead.diff t, some seen⟩ := by
    have unchanged : (t.asRead.diff t).hasChanges = false := by
      rw [Template.diff_asRead distinct, decide_eq_false present]
      rfl
    obtain ⟨quiet, reported⟩ := redeployment_is_skipped policy cancelled stack read
      ⟨unchanged, sections⟩ looked fetched unset parameters tags
    exact ⟨quiet, reported valid usable⟩
  refine ⟨⟨fun ⟨request, mem⟩ => ?_, fun lossy => ?_⟩, skipped⟩
  · by_contra present
    exact (skipped present).1 _ mem trivial
  · exact (deploy_run policy script cancelled stack t options).updates_of_hasNullDefault distinct
      lossy (Script.baseline_of_body unset looked fetched read)
      (.of_usable valid looked usable fun _ => ⟨_, fetched⟩)

/-- The template of a bucket whose name is a parameter with a default and is exported. -/
def namedBucket (default : Value) : Template :=
  { Template.empty with
    parameters := NameMap.empty.insert "Name" ⟨"String", some default, none, [], false⟩
    resources := NameMap.empty.insert "Bucket"
      ⟨"AWS::S3::Bucket", [("BucketName", .object [("Ref", .string "Name")])], .empty, none,
        .retain, none⟩
    outputs := NameMap.empty.insert "Bucket"
      ⟨.object [("Ref", .string "Bucket")], none, some (.string "bucket")⟩ }

/-- The actions that declare its parameter and the bucket. -/
def namedBucketActions (default : Value) : List Action :=
  [.addParameter "Name" ⟨"String", some default, none, [], false⟩,
    .addResource "Bucket" "AWS::S3::Bucket"
      (.object [("BucketName", .object [("Ref", .string "Name")])]) ⟨.empty, none, .retain, none⟩]

/-- The step that contributes its output. -/
def namedBucketSteps : List ContributionStep :=
  [⟨"outputs", [⟨.addOutput "Bucket"
    ⟨.object [("Ref", .string "Bucket")], none, some (.string "bucket")⟩, false⟩]⟩]

theorem build_namedBucket (default : Value) :
    ((Action.runAll "direct" (namedBucketActions default) ⟨.empty, .empty⟩).2.assembler.build .none
      namedBucketSteps).result = .ok (namedBucket default) := by
  rfl

private theorem every_namedBucket {P : Value → Prop} {default : Value} (given : P default)
    (properties : P (.object [("BucketName", .object [("Ref", .string "Name")])]))
    (value : P (.object [("Ref", .string "Bucket")])) (exported : P (.string "bucket")) :
    (namedBucket default).Every fun _ => P where
  parameters := NameMap.all_empty.insert ⟨by rintro _ ⟨⟩; exact given, List.forall_mem_nil _⟩
  mappings := NameMap.all_empty
  conditions := NameMap.all_empty
  resources := NameMap.all_empty.insert properties
  outputs := NameMap.all_empty.insert ⟨value, by rintro _ ⟨⟩; exact exported⟩

private theorem distinct_reference (key name : String) :
    Value.Distinct (.object [(key, .string name)]) :=
  .object (List.nodup_singleton _) (List.forall_mem_singleton.2 (.string name))

private theorem nested_reference (depth : Depth) (key name : String) :
    Value.NestedWithin (depth + 1) (.object [(key, .string name)]) :=
  .object (List.forall_mem_singleton.2 (.string name))

private theorem distinct_properties :
    Value.Distinct (.object [("BucketName", .object [("Ref", .string "Name")])]) :=
  .object (List.nodup_singleton _) (List.forall_mem_singleton.2 (distinct_reference _ _))

private theorem nested_properties :
    Value.NestedWithin 100 (.object [("BucketName", .object [("Ref", .string "Name")])]) :=
  .object (List.forall_mem_singleton.2 (nested_reference 98 _ _))

/-- With a text for its default, the bucket is not deployed again. -/
theorem named_bucket_is_skipped :
    let t := namedBucket (.string "logs")
    let seen : Stack := ⟨"prod", none, .createComplete, none, []⟩
    let script : Script := { Script.empty with
      describes := [.ok (some seen)], templates := [.ok (some t.text)] }
    ((Action.runAll "direct" (namedBucketActions (.string "logs"))
        ⟨.empty, .empty⟩).2.assembler.build .none namedBucketSteps).result = .ok t ∧
      ∃ r, Template.ofText t.text = .ok r ∧ (r.diff t).hasChanges = false ∧
        ((Rehearsal.deployer .default).deploy "prod" t .none (Rehearsal.start script false)).1 =
          .ok ⟨.unchanged, .skip, r.diff t, some seen⟩ := by
  intro t seen script
  have brought : ∀ action ∈ namedBucketActions (.string "logs"), action.Every Value.Distinct :=
    List.forall_mem_cons.2 ⟨⟨by rintro _ ⟨⟩; exact .string _, List.forall_mem_nil _⟩,
      List.forall_mem_singleton.2 distinct_properties⟩
  have contributed : ∀ step ∈ namedBucketSteps, step.Every Value.Distinct :=
    List.forall_mem_singleton.2 (List.forall_mem_singleton.2
      ⟨distinct_reference _ _, by rintro _ ⟨⟩; exact .string _⟩)
  have nested : t.Every fun _ v => v.NestedWithin 100 :=
    every_namedBucket (.string _) nested_properties (nested_reference 99 _ _) (.string _)
  obtain ⟨r, read, diff, -, redeployed⟩ := assembled_template_is_updated_iff "direct" _ .none _ t
    (build_namedBucket _) brought ⟨NameMap.all_empty, NameMap.all_empty, NameMap.all_empty⟩
    contributed nested (List.forall_mem_nil _)
  have present : ¬ t.HasNullDefault := by decide
  refine ⟨build_namedBucket _, r, read, ?_, ?_⟩
  · rw [diff, decide_eq_false present]
    rfl
  · exact ((redeployed .default script false "prod" .none seen rfl rfl rfl rfl rfl rfl
      (by decide)).2 present).2

/-- With null for its default, the bucket differs from what is read of its own text, and deploying
it again submits an update. -/
theorem null_default_is_updated_again :
    let t := namedBucket .null
    let seen : Stack := ⟨"prod", none, .createComplete, none, []⟩
    let script : Script := { Script.empty with
      describes := [.ok (some seen)], templates := [.ok (some t.text)] }
    ((Action.runAll "direct" (namedBucketActions .null)
        ⟨.empty, .empty⟩).2.assembler.build .none namedBucketSteps).result = .ok t ∧
      ∃ r, Template.ofText t.text = .ok r ∧ (r.diff t).hasChanges = true ∧
        ∃ request, .update request ∈ ((Rehearsal.deployer .default).deploy "prod" t .none
          (Rehearsal.start script false)).2.calls := by
  intro t seen script
  have distinct : t.Distinct :=
    every_namedBucket .null distinct_properties (distinct_reference _ _) (.string _)
  have nested : t.Every fun _ v => v.NestedWithin 100 :=
    every_namedBucket .null nested_properties (nested_reference 99 _ _) (.string _)
  have read := Template.ofText_text (Template.every_sound_of_nested distinct nested)
    (List.forall_mem_nil _)
  have lossy : t.HasNullDefault := by decide
  refine ⟨build_namedBucket _, t.asRead, read, ?_, ?_⟩
  · rw [Template.diff_asRead distinct, decide_eq_true lossy]
    rfl
  · have looked : script.firstLook = .ok (some seen) := rfl
    exact (deploy_run .default script false "prod" t .none).updates_of_hasNullDefault distinct lossy
      (Script.baseline_of_body rfl rfl rfl read)
      (.of_usable rfl looked (by decide) fun _ => ⟨_, rfl⟩)

end StackDeploy
