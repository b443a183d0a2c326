/-
The templates that Crew ships (`crew/app/sop_templates.py`).

Each can be instantiated, and its projects can always be finished.
-/

import AnnaAgent.Crew.Completion

namespace AnnaAgent.Crew

open Foundation

def work (key title roleRequired : String) (dependsOn : List String) : SopTaskSpec :=
  { key, title, roleRequired, dependsOn, isGate := false, reviews := none
    acceptanceCriteria := none }

def review (key title roleRequired : String) (dependsOn : List String)
    (reviews acceptanceCriteria : String) : SopTaskSpec :=
  { key, title, roleRequired, dependsOn, isGate := true, reviews := some reviews
    acceptanceCriteria := some acceptanceCriteria }

def featureIteration : SopTemplate where
  id := "feature_iteration"
  tasks := [
    work "brief" "需求简报" "产品" [],
    work "prd" "PRD 起草" "文案" ["brief"],
    review "prd_review" "PRD 评审" "产品" ["prd"] "prd"
      "目标、范围、验收标准三者清晰；关键路径无遗漏；登录页三态（空态、校验中、错误）口径已定义。",
    work "design" "设计稿" "设计" ["prd_review"],
    work "tech_research" "技术预研" "工程" ["prd_review"],
    review "design_review" "设计评审" "产品" ["design", "tech_research"] "design"
      ("空态：默认免登录文案与入口齐备。" ++ "校验中：按钮禁用且等待口径可测。" ++
        "错误：远程 4xx 三种文案，真图各一。" ++ "技术预研结论已纳入实现约束。"),
    work "build" "实施" "工程" ["design_review"],
    review "code_review" "代码评审" "产品" ["build"] "build"
      ("四门通过（typecheck、test、build、pytest）；" ++
        "实现与设计稿三态一致；远程 4xx 错误分支有真实兜底。"),
    work "accept" "验收合并" "产品" ["code_review"]]

def marketingCollateral : SopTemplate where
  id := "marketing_collateral"
  tasks := [
    work "brief" "营销 Brief" "PM" [],
    work "copy" "文案撰写" "文案" ["brief"],
    review "copy_review" "文案评审" "boss" ["copy"] "copy" "信息准确、调性一致、无合规问题。",
    work "visual" "视觉设计" "设计" ["copy_review"],
    review "visual_review" "视觉评审" "boss" ["visual"] "visual" "视觉符合品牌规范与文案表达。",
    work "publish" "投放、发布" "运营" ["visual_review"]]

def listTemplates : List SopTemplate := [featureIteration, marketingCollateral]

namespace SopTemplate

variable (template : SopTemplate)

/-- Where a key stands in the template. -/
def place (key : String) : Nat :=
  (template.tasks.map SopTaskSpec.key).idxOf key

/-- Dependencies stand earlier, gates review one earlier task that is no gate
and has no other gate, and no other task depends on a reviewed one. -/
def Staged : Prop :=
  template.tasks.isEmpty = false ∧ (template.tasks.map SopTaskSpec.key).Nodup ∧
    (∀ spec ∈ template.tasks, ∀ key ∈ spec.dependsOn, template.place key < template.place spec.key ∧
      key ∈ template.tasks.map SopTaskSpec.key) ∧
    (∀ gate ∈ template.tasks, gate.isGate = true →
      ∃ key ∈ gate.dependsOn, key ≠ "" ∧ gate.reviews = some key) ∧
    (∀ gate ∈ template.tasks, gate.isGate = false → gate.reviews = none) ∧
    (∀ gate ∈ template.tasks, ∀ spec ∈ template.tasks, gate.reviews = some spec.key →
      spec.isGate = false) ∧
    (∀ gate ∈ template.tasks, ∀ other ∈ template.tasks, gate.reviews ≠ none →
      gate.reviews = other.reviews → gate.key = other.key) ∧
    ∀ gate ∈ template.tasks, ∀ spec ∈ template.tasks, spec.isGate = false →
      ∀ key ∈ spec.dependsOn, gate.reviews ≠ some key

instance : Decidable template.Staged := by
  unfold Staged
  infer_instance

variable {template : SopTemplate}

theorem Staged.completable (staged : template.Staged) : template.Completable := by
  obtain ⟨_, distinct, earlier, gates, _, reviewed, single, apart⟩ := staged
  refine ⟨distinct, ?_, ?_, ?_, ?_⟩
  · refine acyclic_of_rank template.place ?_
    intro key awaited waits
    cases waits with
    | dependency member depends => exact (earlier _ member _ depends).1
    | gate member gateMember notGate depends reviews =>
      exact absurd reviews.2.2 (apart _ gateMember _ member notGate _ depends)
  · intro gate member key reviews
    obtain ⟨reviewedKey, isDependency, _, isReviewed⟩ := gates gate member reviews.1
    rw [reviews.2.2] at isReviewed
    rw [Option.some.inj isReviewed]
    exact isDependency
  · intro gate member other otherMember key reviews otherReviews
    refine single gate member other otherMember ?_ ?_
    · rw [reviews.2.2]
      exact Option.some_ne_none key
    · rw [reviews.2.2, otherReviews.2.2]
  · intro gate member spec specMember reviews
    exact reviewed gate member spec specMember reviews.2.2

end SopTemplate

theorem listTemplates_staged : ∀ template ∈ listTemplates, template.Staged := by
  decide +kernel

end AnnaAgent.Crew
