/-
Module: CsiLvm.Controller.Secrets
Purpose: Secret references and credentials: `resolveTemplate` over `os.Expand`,
  `getSecretReference` with its namespace and name blocks, and `getCredentials`. The
  results: on a well-formed template `resolveTemplate` is single-pass substitution that
  reports every missing token, sorted, once; the namespace block never reads a field the
  claim's user controls, and a name template over the built-in tokens ignores annotations;
  a malformed `${}` or unclosed `${` is dropped by the scanner instead of being rejected.
Trusted boundary: none beyond the library models it imports.
Main exports: resolveTemplate, getSecretReference, getCredentials, getCredentials_eq_ok,
  resolveTemplate_renderTemplate, resolveTemplate_substitutes, getSecretReference_congr,
  getCredentials_congr
-/
import CsiLvm.Lib.Expand
import CsiLvm.Api
import Mathlib.Data.Finset.Sort
import Mathlib.Data.String.Basic

namespace CsiLvm

open Os

/-!
[SPEC src/unnamed/part_001:444-555] `getSecretReference` reads two storage class parameters, a name
template and a namespace template. The namespace template may use `${pv.name}` and, when a
claim is given, `${pvc.namespace}`; the name template may also use `${pvc.name}` and
`${pvc.annotations['KEY']}` for every annotation of the claim.
-/

/-- `provisionerSecretNameKey`. -/
def provisionerSecretNameKey : String := "csiProvisionerSecretName"
/-- `provisionerSecretNamespaceKey`. -/
def provisionerSecretNamespaceKey : String := "csiProvisionerSecretNamespace"
/-- `controllerPublishSecretNameKey`. -/
def controllerPublishSecretNameKey : String := "csiControllerPublishSecretName"
/-- `controllerPublishSecretNamespaceKey`. -/
def controllerPublishSecretNamespaceKey : String := "csiControllerPublishSecretNamespace"
/-- `nodeStageSecretNameKey`. -/
def nodeStageSecretNameKey : String := "csiNodeStageSecretName"
/-- `nodeStageSecretNamespaceKey`. -/
def nodeStageSecretNamespaceKey : String := "csiNodeStageSecretNamespace"
/-- `nodePublishSecretNameKey`. -/
def nodePublishSecretNameKey : String := "csiNodePublishSecretName"
/-- `nodePublishSecretNamespaceKey`. -/
def nodePublishSecretNamespaceKey : String := "csiNodePublishSecretNamespace"

/-- The closure `resolveTemplate` hands to `os.Expand`: the parameter's value, or `""` with
the key added to `missingParams` when the parameter is absent. -/
def lookupParam (params : StringMap) (key : String) (missingParams : Finset String) :
    String × Finset String :=
  match params.lookup key with
  | some value => (value, missingParams)
  | none => ("", insert key missingParams)

/-- `resolveTemplate(template, params)`: expand the template, and fail with the sorted list
of the keys it could not find (`missingParams.List()`). -/
def resolveTemplate (template : String) (params : StringMap) : Except ControllerError String :=
  let expanded := expand (lookupParam params) template.data ∅
  if 0 < expanded.2.card then .error (.invalidTokens (expanded.2.sort (· ≤ ·)))
  else .ok (String.mk expanded.1)

/-- `namespaceParams`: the PV name, and the claim's namespace when a claim is given. -/
def namespaceParams (pvName : String) (pvc : Option PersistentVolumeClaim) : StringMap :=
  let params : StringMap := (∅ : StringMap).insert "pv.name" pvName
  match pvc with
  | some pvc => params.insert "pvc.namespace" pvc.«namespace»
  | none => params

/-- The key `nameParams` gives the annotation `key`. -/
def annotationParam (key : String) : String :=
  "pvc.annotations['" ++ key ++ "']"

/-- `nameParams`: the PV name and, when a claim is given, its name, its namespace, and one
parameter per annotation, written in the order the `range` loop visits them. -/
def nameParams (pvName : String) (pvc : Option PersistentVolumeClaim) : StringMap :=
  let params : StringMap := (∅ : StringMap).insert "pv.name" pvName
  match pvc with
  | some pvc =>
      pvc.annotations.entries.foldl
        (fun params annotation => params.insert (annotationParam annotation.1) annotation.2)
        ((params.insert "pvc.name" pvc.name).insert "pvc.namespace" pvc.«namespace»)
  | none => params

/-- One of the two blocks of `getSecretReference`: resolve the template, then check the
result, failing with the block's own message when the template resolved to another invalid
value and with its other message when the template was itself the invalid value. -/
def resolveSecretField (validate : String → List Validation.Violation)
    (resolvedInvalid : String → String → String → ControllerError)
    (invalid : String → String → ControllerError) (key template : String)
    (params : StringMap) : Except ControllerError String :=
  match resolveTemplate template params with
  | .error err => .error (.resolvingParameter key template err)
  | .ok resolved =>
      if 0 < (validate resolved).length then
        if template ≠ resolved then .error (resolvedInvalid key template resolved)
        else .error (invalid key template)
      else .ok resolved

/-- The namespace block of `getSecretReference`. -/
def resolveSecretNamespace (namespaceKey namespaceTemplate pvName : String)
    (pvc : Option PersistentVolumeClaim) : Except ControllerError String :=
  resolveSecretField Validation.isDNS1123Label .namespaceResolvedInvalid .namespaceInvalid
    namespaceKey namespaceTemplate (namespaceParams pvName pvc)

/-- The name block of `getSecretReference`. -/
def resolveSecretName (nameKey nameTemplate pvName : String)
    (pvc : Option PersistentVolumeClaim) : Except ControllerError String :=
  resolveSecretField Validation.isDNS1123Subdomain .secretNameResolvedInvalid
    .secretNameInvalid nameKey nameTemplate (nameParams pvName pvc)

/-- `getSecretReference(nameKey, namespaceKey, storageClassParams, pvName, pvc)`: no
reference when neither parameter is set, an error when only one is set or either is empty,
and otherwise the resolved namespace and name. -/
def getSecretReference (nameKey namespaceKey : String) (storageClassParams : StringMap)
    (pvName : String) (pvc : Option PersistentVolumeClaim) :
    Except ControllerError (Option SecretReference) :=
  let nameTemplate := storageClassParams.get nameKey
  let namespaceTemplate := storageClassParams.get namespaceKey
  let hasName := (storageClassParams.lookup nameKey).isSome
  let hasNamespace := (storageClassParams.lookup namespaceKey).isSome
  if !hasName && !hasNamespace then .ok none
  else if nameTemplate.length = 0 ∨ namespaceTemplate.length = 0 then
    .error (.secretParametersNotTogether nameKey namespaceKey)
  else do
    let resolvedNamespace ← resolveSecretNamespace namespaceKey namespaceTemplate pvName pvc
    let resolvedName ← resolveSecretName nameKey nameTemplate pvName pvc
    pure (some { name := resolvedName, «namespace» := resolvedNamespace })

/-- `getCredentials(k8s, ref)`: no credentials without a reference; otherwise the data of
the referenced secret, copied in the order the `range` loop visits it. -/
def getCredentials (store : ObjectStore) : Option SecretReference →
    Except ControllerError StringMap
  | none => .ok ∅
  | some ref =>
      match store.getSecret ref.«namespace» ref.name with
      | .error err => .error (.getSecret ref.name ref.«namespace» err)
      | .ok secret =>
          .ok (secret.data.entries.foldl
            (fun credentials entry => credentials.insert entry.1 entry.2) ∅)

/-- `getSecretReference` reads the storage class parameters key by key only. -/
theorem getSecretReference_congr {nameKey namespaceKey pvName : String}
    {pvc : Option PersistentVolumeClaim} {first second : StringMap}
    (agree : ∀ key, first.lookup key = second.lookup key) :
    getSecretReference nameKey namespaceKey first pvName pvc =
      getSecretReference nameKey namespaceKey second pvName pvc := by
  simp only [getSecretReference, StringMap.get, agree]

/-! ### `resolveTemplate` -/

theorem resolveTemplate_congr {template : String} {first second : StringMap}
    (agree : ∀ key ∈ expandTokens template.data, first.lookup key = second.lookup key) :
    resolveTemplate template first = resolveTemplate template second := by
  have same : expand (lookupParam first) template.data ∅ =
      expand (lookupParam second) template.data ∅ :=
    expand_congr _ _ fun key member => funext fun _ => by simp only [lookupParam, agree key member]
  simp only [resolveTemplate, same]

theorem resolveSecretField_congr {validate : String → List Validation.Violation}
    {resolvedInvalid : String → String → String → ControllerError}
    {invalid : String → String → ControllerError} {key template : String}
    {first second : StringMap}
    (agree : ∀ token ∈ expandTokens template.data, first.lookup token = second.lookup token) :
    resolveSecretField validate resolvedInvalid invalid key template first =
      resolveSecretField validate resolvedInvalid invalid key template second := by
  simp only [resolveSecretField, resolveTemplate_congr agree]

theorem resolveTemplate_of_no_dollar {template : String} (noDollar : '$' ∉ template.data)
    (params : StringMap) : resolveTemplate template params = .ok template := by
  have expanded : expand (lookupParam params) template.data ∅ = (template.data, ∅) := by
    simpa [expand] using expand_literal (lookupParam params) noDollar [] ∅
  simp [resolveTemplate, expanded]

theorem resolveTemplate_drops_empty_braces (params : StringMap) {before : List Char}
    (noDollar : '$' ∉ before) (after : List Char) :
    resolveTemplate (String.mk (before ++ '$' :: '{' :: '}' :: after)) params =
      resolveTemplate (String.mk (before ++ after)) params := by
  simp only [resolveTemplate, expand_literal _ noDollar, expand_empty_braces]

theorem resolveTemplate_drops_unclosed_brace (params : StringMap) {before after : List Char}
    (noDollar : '$' ∉ before) (unclosed : '}' ∉ after) :
    resolveTemplate (String.mk (before ++ '$' :: '{' :: after)) params =
      resolveTemplate (String.mk (before ++ after)) params := by
  simp only [resolveTemplate, expand_literal _ noDollar, expand_unclosed_brace _ unclosed]

/-! ### Well-formed templates: single-pass substitution -/

/-- The keys of a template's tokens that no parameter has. -/
def missingKeys (params : StringMap) (pieces : List TemplatePiece) : Finset String :=
  ((templateKeys pieces).filter fun key => (params.lookup key).isNone).toFinset

/-- The template with each token `${key}` replaced by the value of the parameter `key`,
verbatim: the substitution `resolveTemplate` is meant to perform. -/
def substitute (params : StringMap) : List TemplatePiece → List Char
  | [] => []
  | .literal text _ :: pieces => text ++ substitute params pieces
  | .token key .. :: pieces => (params.get (String.mk key)).data ++ substitute params pieces

theorem expandPieces_lookupParam (params : StringMap) (pieces : List TemplatePiece)
    (missingParams : Finset String) :
    expandPieces (lookupParam params) pieces missingParams =
      (substitute params pieces, missingParams ∪ missingKeys params pieces) := by
  induction pieces generalizing missingParams with
  | nil => simp [expandPieces, substitute, missingKeys, templateKeys]
  | cons piece pieces inductionHypothesis =>
      cases piece with
      | literal text _ =>
          simp [expandPieces, substitute, missingKeys, templateKeys, inductionHypothesis]
      | token key _ _ =>
          cases found : params.lookup (String.mk key) <;>
            simp [expandPieces, lookupParam, found, substitute, StringMap.get,
              inductionHypothesis, missingKeys, templateKeys, List.filter_cons]

theorem resolveTemplate_renderTemplate (params : StringMap) (pieces : List TemplatePiece) :
    resolveTemplate (String.mk (renderTemplate pieces)) params =
      if 0 < (missingKeys params pieces).card then
        .error (.invalidTokens ((missingKeys params pieces).sort (· ≤ ·)))
      else .ok (String.mk (substitute params pieces)) := by
  simp only [resolveTemplate, expand_renderTemplate, expandPieces_lookupParam,
    Finset.empty_union]

theorem mem_missingKeys {params : StringMap} {pieces : List TemplatePiece} {key : String} :
    key ∈ missingKeys params pieces ↔
      key ∈ templateKeys pieces ∧ params.lookup key = none := by
  simp [missingKeys]

/-- On a well-formed template, `resolveTemplate` fails exactly when a token's key has no
parameter, and its error then lists those keys, each once and in order; otherwise it
substitutes each token's value verbatim in one pass. -/
theorem resolveTemplate_substitutes (params : StringMap) (pieces : List TemplatePiece) :
    ((∃ err, resolveTemplate (String.mk (renderTemplate pieces)) params = .error err) ↔
        ∃ key ∈ templateKeys pieces, params.lookup key = none) ∧
      (∀ err, resolveTemplate (String.mk (renderTemplate pieces)) params = .error err →
        ∃ tokens, err = .invalidTokens tokens ∧ tokens.Sorted (· < ·) ∧ tokens.Nodup ∧
          ∀ key, key ∈ tokens ↔ key ∈ templateKeys pieces ∧ params.lookup key = none) ∧
      ((∀ key ∈ templateKeys pieces, params.lookup key ≠ none) →
        resolveTemplate (String.mk (renderTemplate pieces)) params =
          .ok (String.mk (substitute params pieces))) := by
  rw [resolveTemplate_renderTemplate]
  by_cases someMissing : 0 < (missingKeys params pieces).card
  · obtain ⟨key, member⟩ := Finset.card_pos.mp someMissing
    refine ⟨⟨fun _ => ⟨key, mem_missingKeys.mp member⟩,
        fun _ => ⟨_, if_pos someMissing⟩⟩,
      fun err returned => ?_, fun allFound => ?_⟩
    · simp only [someMissing, if_true, Except.error.injEq] at returned
      exact ⟨_, returned.symm, Finset.sort_sorted_lt _, Finset.sort_nodup _ _,
        fun key => by rw [Finset.mem_sort, mem_missingKeys]⟩
    · exact absurd (mem_missingKeys.mp member).2 (allFound key (mem_missingKeys.mp member).1)
  · have noneMissing : missingKeys params pieces = ∅ := by
      simpa [Finset.card_pos] using someMissing
    have allFound : ∀ key ∈ templateKeys pieces, params.lookup key ≠ none :=
      fun key member found =>
        Finset.not_mem_empty key (noneMissing ▸ mem_missingKeys.mpr ⟨member, found⟩)
    simp only [someMissing, if_false, reduceCtorEq, exists_false, false_iff, false_implies,
      implies_true, true_and, forall_const]
    exact ⟨fun ⟨key, member, found⟩ => allFound key member found, trivial⟩

/-! ### `getSecretReference` -/

theorem annotationParam_ne {key : String} (short : key.length < 19) (annotationKey : String) :
    annotationParam annotationKey ≠ key := by
  intro same
  have lengths := congrArg String.length same
  simp only [annotationParam, String.length_append] at lengths
  have : "pvc.annotations['".length = 17 := rfl
  have : "']".length = 2 := rfl
  omega

theorem lookup_foldl_annotations {key : String} (short : key.length < 19)
    (annotations : List (Σ _ : String, String)) (params : StringMap) :
    (annotations.foldl
        (fun params annotation => params.insert (annotationParam annotation.1) annotation.2)
        params).lookup key = params.lookup key := by
  induction annotations generalizing params with
  | nil => rfl
  | cons annotation annotations inductionHypothesis =>
      rw [List.foldl_cons, inductionHypothesis,
        AList.lookup_insert_ne (annotationParam_ne short annotation.1).symm]

/-- No annotation shadows a built-in token of the name template. -/
theorem nameParams_builtin (pvName : String) (pvc : PersistentVolumeClaim) :
    (nameParams pvName (some pvc)).lookup "pv.name" = some pvName ∧
      (nameParams pvName (some pvc)).lookup "pvc.name" = some pvc.name ∧
      (nameParams pvName (some pvc)).lookup "pvc.namespace" = some pvc.«namespace» := by
  simp only [nameParams]
  refine ⟨?_, ?_, ?_⟩ <;> rw [lookup_foldl_annotations (by decide)] <;>
    simp [-AList.insert_empty]

theorem getSecretReference_eq_ok_some {nameKey namespaceKey pvName : String}
    {storageClassParams : StringMap} {pvc : Option PersistentVolumeClaim}
    {ref : SecretReference}
    (resolved : getSecretReference nameKey namespaceKey storageClassParams pvName pvc =
      .ok (some ref)) :
    resolveSecretNamespace namespaceKey (storageClassParams.get namespaceKey) pvName pvc =
        .ok ref.«namespace» ∧
      resolveSecretName nameKey (storageClassParams.get nameKey) pvName pvc = .ok ref.name := by
  unfold getSecretReference at resolved
  dsimp only at resolved
  split at resolved
  · cases resolved
  split at resolved
  · cases resolved
  cases hNamespace : resolveSecretNamespace namespaceKey (storageClassParams.get namespaceKey)
      pvName pvc <;>
    cases hName : resolveSecretName nameKey (storageClassParams.get nameKey) pvName pvc <;>
    simp_all [bind, Except.bind]
  cases resolved
  simp

/-- `getSecretReference` goes past its checks only when both keys are missing or both
templates are non-empty: one key alone, or an empty template, is the error that the two
parameters must be specified together. -/
theorem getSecretReference_together {nameKey namespaceKey pvName : String}
    {storageClassParams : StringMap} {pvc : Option PersistentVolumeClaim}
    {ref : Option SecretReference}
    (resolved : getSecretReference nameKey namespaceKey storageClassParams pvName pvc = .ok ref) :
    (storageClassParams.lookup nameKey = none ∧ storageClassParams.lookup namespaceKey = none) ∨
      (storageClassParams.get nameKey ≠ "" ∧ storageClassParams.get namespaceKey ≠ "") := by
  unfold getSecretReference at resolved
  dsimp only at resolved
  split at resolved
  case isTrue absent => exact .inl (by simpa using absent)
  split at resolved
  · cases resolved
  case isFalse nonempty => exact .inr (by simpa [not_or] using nonempty)

theorem getSecretReference_of_templates {nameKey namespaceKey pvName : String}
    {storageClassParams : StringMap} {pvc : Option PersistentVolumeClaim}
    {nameTemplate namespaceTemplate : String}
    (hasName : storageClassParams.lookup nameKey = some nameTemplate)
    (hasNamespace : storageClassParams.lookup namespaceKey = some namespaceTemplate)
    (nameSet : nameTemplate ≠ "") (namespaceSet : namespaceTemplate ≠ "") :
    getSecretReference nameKey namespaceKey storageClassParams pvName pvc =
      (do
        let resolvedNamespace ← resolveSecretNamespace namespaceKey namespaceTemplate pvName pvc
        let resolvedName ← resolveSecretName nameKey nameTemplate pvName pvc
        pure (some { name := resolvedName, «namespace» := resolvedNamespace })) := by
  simp [getSecretReference, StringMap.get, hasName, hasNamespace, nameSet, namespaceSet]

/-- A field a block of `getSecretReference` resolves passed that block's check, and is what
its template resolved to. -/
theorem resolveSecretField_eq_ok {validate : String → List Validation.Violation}
    {resolvedInvalid : String → String → String → ControllerError}
    {invalid : String → String → ControllerError} {key template value : String}
    {params : StringMap}
    (resolved : resolveSecretField validate resolvedInvalid invalid key template params =
      .ok value) :
    validate value = [] ∧ resolveTemplate template params = .ok value := by
  unfold resolveSecretField at resolved
  split at resolved
  · cases resolved
  rename_i fetched
  split_ifs at resolved with failed
  cases resolved
  exact ⟨List.eq_nil_of_length_eq_zero (Nat.eq_zero_of_not_pos failed), fetched⟩

/-- When both templates are set and resolve, for the parameters of their blocks, to a valid
namespace and a valid name, those are the reference. -/
theorem getSecretReference_of_resolved {nameKey namespaceKey pvName : String}
    {storageClassParams : StringMap} {pvc : Option PersistentVolumeClaim}
    {nameTemplate namespaceTemplate name «namespace» : String}
    (hasName : storageClassParams.lookup nameKey = some nameTemplate)
    (hasNamespace : storageClassParams.lookup namespaceKey = some namespaceTemplate)
    (nameSet : nameTemplate ≠ "") (namespaceSet : namespaceTemplate ≠ "")
    (nameResolved : resolveTemplate nameTemplate (nameParams pvName pvc) = .ok name)
    (namespaceResolved :
      resolveTemplate namespaceTemplate (namespaceParams pvName pvc) = .ok «namespace»)
    (validName : Validation.isDNS1123Subdomain name = [])
    (validNamespace : Validation.isDNS1123Label «namespace» = []) :
    getSecretReference nameKey namespaceKey storageClassParams pvName pvc =
      .ok (some { name, «namespace» }) := by
  rw [getSecretReference_of_templates hasName hasNamespace nameSet namespaceSet]
  simp [resolveSecretNamespace, resolveSecretName, resolveSecretField, nameResolved,
    namespaceResolved, validName, validNamespace]
  rfl

/-- The claim's user controls its name and annotations, not its namespace. The namespace
block of `getSecretReference` reads neither, and a name template built from the built-in
tokens only resolves the same way whatever the claim's annotations are. -/
theorem getSecretReference_claimIndependent (nameKey namespaceKey : String)
    (storageClassParams : StringMap) (pvName : String) (first second : PersistentVolumeClaim)
    (sameNamespace : first.«namespace» = second.«namespace») :
    resolveSecretNamespace namespaceKey (storageClassParams.get namespaceKey) pvName
          (some first) =
        resolveSecretNamespace namespaceKey (storageClassParams.get namespaceKey) pvName
          (some second) ∧
      (∀ firstRef secondRef,
        getSecretReference nameKey namespaceKey storageClassParams pvName (some first) =
            .ok (some firstRef) →
          getSecretReference nameKey namespaceKey storageClassParams pvName (some second) =
            .ok (some secondRef) →
          firstRef.«namespace» = secondRef.«namespace») ∧
      ((∀ key ∈ expandTokens (storageClassParams.get nameKey).data,
          key = "pv.name" ∨ key = "pvc.name" ∨ key = "pvc.namespace") →
        first.name = second.name →
        getSecretReference nameKey namespaceKey storageClassParams pvName (some first) =
          getSecretReference nameKey namespaceKey storageClassParams pvName (some second)) := by
  have sameNamespaceBlock :
      resolveSecretNamespace namespaceKey (storageClassParams.get namespaceKey) pvName
          (some first) =
        resolveSecretNamespace namespaceKey (storageClassParams.get namespaceKey) pvName
          (some second) := by
    simp only [resolveSecretNamespace, namespaceParams, sameNamespace]
  refine ⟨sameNamespaceBlock, fun firstRef secondRef firstResolved secondResolved => ?_,
    fun builtinOnly sameName => ?_⟩
  · have firstBlock := (getSecretReference_eq_ok_some firstResolved).1
    rw [sameNamespaceBlock, (getSecretReference_eq_ok_some secondResolved).1] at firstBlock
    exact (Except.ok.inj firstBlock).symm
  · have sameNameBlock :
        resolveSecretName nameKey (storageClassParams.get nameKey) pvName (some first) =
          resolveSecretName nameKey (storageClassParams.get nameKey) pvName (some second) := by
      apply resolveSecretField_congr
      intro key member
      obtain ⟨firstPv, firstName, firstNamespace⟩ := nameParams_builtin pvName first
      obtain ⟨secondPv, secondName, secondNamespace⟩ := nameParams_builtin pvName second
      rcases builtinOnly key member with rfl | rfl | rfl
      · rw [firstPv, secondPv]
      · rw [firstName, secondName, sameName]
      · rw [firstNamespace, secondNamespace, sameNamespace]
    simp only [getSecretReference, sameNamespaceBlock, sameNameBlock]

theorem getSecretReference_claimIndependent_sample :
    let first : PersistentVolumeClaim :=
      { name := "claim", «namespace» := "default", uid := "1234", annotations := ∅,
        selector := none, dataSource := none, storageRequest := none, accessModes := [] }
    let second : PersistentVolumeClaim :=
      { first with annotations := (∅ : StringMap).insert "pvc.namespace" "kube-system" }
    let params : StringMap := ((∅ : StringMap).insert nodeStageSecretNameKey "${pvc.name}").insert
      nodeStageSecretNamespaceKey "${pvc.namespace}"
    first.«namespace» = second.«namespace» ∧
      resolveSecretNamespace nodeStageSecretNamespaceKey (params.get nodeStageSecretNamespaceKey)
          "pvc-1" (some first) =
        resolveSecretNamespace nodeStageSecretNamespaceKey (params.get nodeStageSecretNamespaceKey)
          "pvc-1" (some second) ∧
      (∀ firstRef secondRef,
        getSecretReference nodeStageSecretNameKey nodeStageSecretNamespaceKey params "pvc-1"
            (some first) = .ok (some firstRef) →
          getSecretReference nodeStageSecretNameKey nodeStageSecretNamespaceKey params "pvc-1"
            (some second) = .ok (some secondRef) →
          firstRef.«namespace» = secondRef.«namespace») ∧
      ((∀ key ∈ expandTokens (params.get nodeStageSecretNameKey).data,
          key = "pv.name" ∨ key = "pvc.name" ∨ key = "pvc.namespace") →
        first.name = second.name →
        getSecretReference nodeStageSecretNameKey nodeStageSecretNamespaceKey params "pvc-1"
            (some first) =
          getSecretReference nodeStageSecretNameKey nodeStageSecretNamespaceKey params "pvc-1"
            (some second)) := by
  intro first second params
  exact ⟨rfl, getSecretReference_claimIndependent _ _ params "pvc-1" first second rfl⟩

/-- The name templates `a${}b` and `${pv.name` hold a `$` that begins no well-formed token,
yet `getSecretReference` resolves them: the scanner drops `${}` and an unclosed `${` without
a lookup, and what is left is a valid secret name. -/
theorem getSecretReference_accepts_malformed_tokens :
    getSecretReference provisionerSecretNameKey provisionerSecretNamespaceKey
        (((∅ : StringMap).insert provisionerSecretNameKey "a${}b").insert
          provisionerSecretNamespaceKey "default") "pvc-1" none =
      .ok (some { name := "ab", «namespace» := "default" }) ∧
    getSecretReference provisionerSecretNameKey provisionerSecretNamespaceKey
        (((∅ : StringMap).insert provisionerSecretNameKey "$\x7bpv.name").insert
          provisionerSecretNamespaceKey "default") "pvc-1" none =
      .ok (some { name := "pv.name", «namespace» := "default" }) := by
  have emptyBraces (params : StringMap) : resolveTemplate "a${}b" params = .ok "ab" :=
    (@resolveTemplate_drops_empty_braces params ['a'] (by decide) ['b']).trans
      (resolveTemplate_of_no_dollar (by decide) params)
  have unclosed (params : StringMap) : resolveTemplate "$\x7bpv.name" params = .ok "pv.name" :=
    (@resolveTemplate_drops_unclosed_brace params [] _ (by decide) (by decide)).trans
      (resolveTemplate_of_no_dollar (by decide) params)
  exact ⟨getSecretReference_of_resolved (by decide) (by decide) (by decide) (by decide)
      (emptyBraces _) (resolveTemplate_of_no_dollar (by decide) _) (by decide) (by decide),
    getSecretReference_of_resolved (by decide) (by decide) (by decide) (by decide)
      (unclosed _) (resolveTemplate_of_no_dollar (by decide) _) (by decide) (by decide)⟩

/-! ### `getCredentials` -/

/-- The credentials `getCredentials` returns: none without a reference, and otherwise the data
of the referenced secret, key by key, whatever order the copy loop visits it in. -/
theorem getCredentials_eq_ok {store : ObjectStore} {ref : Option SecretReference}
    {credentials : StringMap} (fetched : getCredentials store ref = .ok credentials) :
    (ref = none → credentials = ∅) ∧
      ∀ secretRef, ref = some secretRef → ∃ secret,
        store.getSecret secretRef.«namespace» secretRef.name = .ok secret ∧
          ∀ key, credentials.lookup key = secret.data.lookup key := by
  cases ref with
  | none => exact ⟨fun _ => (Except.ok.inj fetched).symm, fun _ absent => nomatch absent⟩
  | some secretRef =>
    refine ⟨(fun absent => nomatch absent), fun _ same => ?_⟩
    cases same
    unfold getCredentials at fetched
    cases read : store.getSecret secretRef.«namespace» secretRef.name with
    | error err => simp [read] at fetched
    | ok secret =>
      simp only [read, Except.ok.injEq] at fetched
      refine ⟨secret, rfl, fun key => ?_⟩
      rw [← fetched, StringMap.lookup_foldl_insert, AList.lookup_empty, Option.or_none]

/-- Credentials read through a reference from two stores that hold the referenced secret with
the same data, key by key, agree key by key. -/
theorem getCredentials_congr {store store' : ObjectStore} {ref : Option SecretReference}
    {credentials : StringMap} (fetched : getCredentials store ref = .ok credentials)
    (kept : ∀ secretRef secret, ref = some secretRef →
      store.getSecret secretRef.«namespace» secretRef.name = .ok secret →
      ∃ secret', store'.getSecret secretRef.«namespace» secretRef.name = .ok secret' ∧
        ∀ key, secret'.data.lookup key = secret.data.lookup key) :
    ∃ credentials', getCredentials store' ref = .ok credentials' ∧
      ∀ key, credentials'.lookup key = credentials.lookup key := by
  obtain ⟨noRef, someRef⟩ := getCredentials_eq_ok fetched
  cases ref with
  | none => exact ⟨∅, rfl, by simp [noRef rfl]⟩
  | some secretRef =>
    obtain ⟨secret, read, copied⟩ := someRef secretRef rfl
    obtain ⟨secret', read', same⟩ := kept secretRef secret rfl read
    refine ⟨_, by simp only [getCredentials, read']; rfl, fun key => ?_⟩
    rw [StringMap.lookup_foldl_insert, AList.lookup_empty, Option.or_none, same, copied]

end CsiLvm
