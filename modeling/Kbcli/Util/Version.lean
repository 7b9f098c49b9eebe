import Kbcli.Types

/-!
# version の取得

`GetVersionInfo` は CLI、Kubernetes、KubeBlocks の version を集める。KubeBlocks の version は
label selector `app.kubernetes.io/name=<chart>,app.kubernetes.io/component=apps` で見つかる
Deployment がちょうど一つのとき、その `app.kubernetes.io/version` label である。

selector で見つかった Deployment は selector の label を持ち、label の map が nil でないので、
`getKubeBlocksVersion` の "has no labels" の分岐には来ない（`getVersionInfo_eq`）。

`types.KubeBlocksChartName` と `version.GetVersion()` は repository の外にあるので、
引数 `chartName` と `cli` で受ける。
-/

namespace Kbcli.Util

/-- `appsv1.Deployment`。label しか読まない。Go の map は nil と空を区別するので、label の
map が nil なら `none`。 -/
structure Deployment where
  labels : Option (List (String × String))
deriving DecidableEq, Repr

/-- `deploy.GetLabels()[k]`。nil の map を引いても何もない。 -/
def Deployment.label (d : Deployment) (k : String) : Option String := (d.labels.getD []).lookup k

/-- `kubernetes.Interface` のうち version の取得が使うもの。 -/
structure Client where
  /-- `Discovery().ServerVersion()` の `GitVersion`。`none` は nil の version。 -/
  serverVersion : Except String (Option String)
  /-- すべての namespace の Deployment。`List` が失敗すれば error。 -/
  deployments : Except String (List Deployment)

/-- `Version`。 -/
structure Version where
  kubeBlocks : String
  kubernetes : String
  cli : String
deriving DecidableEq, Repr

/-- `kubeblocksAppComponent`。 -/
def kubeblocksAppComponent : String := "apps"

/-- `dataprotectionAppComponent`。 -/
def dataprotectionAppComponent : String := "dataprotection"

/-- `Deployments(NamespaceAll).List` を label selector `app.kubernetes.io/name=name,
app.kubernetes.io/component=component` で絞る。 -/
def Client.listDeployments (c : Client) (name component : String) :
    Except String (List Deployment) :=
  c.deployments.map (·.filter fun d => d.label "app.kubernetes.io/name" = some name ∧
    d.label "app.kubernetes.io/component" = some component)

/-- `GetKubeBlocksDeploy` と `GetDataProtectionDeploy` の形。なければ nil、二つ以上なら error。 -/
def getDeploy (chartName component multipleError : String) (client : Client) :
    Except String (Option Deployment) := do
  let deploys ← client.listDeployments chartName component
  match deploys with
  | [] => pure none
  | [d] => pure (some d)
  | _ :: _ :: _ => throw multipleError

/-- `GetKubeBlocksDeploy`。 -/
def getKubeBlocksDeploy (chartName : String) : Client → Except String (Option Deployment) :=
  getDeploy chartName kubeblocksAppComponent
    "found multiple KubeBlocks deployments, please check your cluster"

/-- `GetDataProtectionDeploy`。 -/
def getDataProtectionDeploy (chartName : String) : Client → Except String (Option Deployment) :=
  getDeploy chartName dataprotectionAppComponent
    "found multiple DataProtection deployments, please check your cluster"

/-- `getKubeBlocksVersion`。Deployment がなければ error なしの空文字列。label の map が nil なら
"has no labels"、空の map なら "has no version label"。 -/
def getKubeBlocksVersion (chartName : String) (client : Client) : Except String String :=
  match getKubeBlocksDeploy chartName client with
  | .error e => .error e
  | .ok none => .ok ""
  | .ok (some deploy) =>
    match deploy.labels with
    | none => .error "KubeBlocks deployment has no labels"
    | some labels =>
      match labels.lookup "app.kubernetes.io/version" with
      | none => .error "KubeBlocks deployment has no version label"
      | some v => .ok v

/-- `GetK8sVersion`。 -/
def getK8sVersion (client : Client) : Except String String :=
  match client.serverVersion with
  | .error e => .error e
  | .ok (some v) => .ok v
  | .ok none => .ok ""

/-- `GetVersionInfo`。error のときも、それまでに埋めた `Version` を返す。nil の client では
CLI の version だけ。 -/
def getVersionInfo (chartName cli : String) (client : Option Client) : Version × Option String :=
  let v : Version := ⟨"", "", cli⟩
  match client with
  | none => (v, none)
  | some c =>
    match getK8sVersion c with
    | .error e => (v, some e)
    | .ok k =>
      let v := { v with kubernetes := k }
      match getKubeBlocksVersion chartName c with
      | .error e => (v, some e)
      | .ok kb => ({ v with kubeBlocks := kb }, none)

/-- selector で見つかった Deployment の label の map は nil でない。 -/
theorem labels_ne_none_of_listed {c : Client} {name component : String} {deploys : List Deployment}
    (h : c.listDeployments name component = .ok deploys) : ∀ d ∈ deploys, d.labels ≠ none := by
  unfold Client.listDeployments at h
  cases hc : c.deployments with
  | error e => simp [hc, Except.map] at h
  | ok all =>
    simp only [hc, Except.map, Except.ok.injEq] at h
    subst h
    intro d hd hnil
    simpa [Deployment.label, hnil] using (List.mem_filter.mp hd).2

/-- 見つかった Deployment の列から決まる KubeBlocks の version と error。 -/
def versionOfDeploys : List Deployment → String × Option String
  | [] => ("", none)
  | [d] =>
    match d.label "app.kubernetes.io/version" with
    | some v => (v, none)
    | none => ("", some "KubeBlocks deployment has no version label")
  | _ :: _ :: _ => ("", some "found multiple KubeBlocks deployments, please check your cluster")

/-- **KubeBlocks の version。** API の呼び出しが通れば、`GetVersionInfo` は CLI と server の
version に加えて、selector で見つかる Deployment がなければ空、一つならその version label
（なければ error）、二つ以上なら error を返す。"has no labels" の error は出ない。 -/
theorem getVersionInfo_eq {chartName cli k : String} {c : Client} (hk : getK8sVersion c = .ok k)
    {deploys : List Deployment}
    (hl : c.listDeployments chartName kubeblocksAppComponent = .ok deploys) :
    getVersionInfo chartName cli (some c) =
      (⟨(versionOfDeploys deploys).1, k, cli⟩, (versionOfDeploys deploys).2) := by
  have hne := labels_ne_none_of_listed hl
  simp only [getVersionInfo, hk, getKubeBlocksVersion, getKubeBlocksDeploy, getDeploy, hl, ok_bind]
  match deploys, hne with
  | [], _ => rfl
  | [d], hne =>
    obtain ⟨labels, hd⟩ := Option.ne_none_iff_exists'.mp (hne d (List.mem_singleton_self d))
    simp only [pure_eq_ok, hd, versionOfDeploys, Deployment.label, Option.getD_some]
    cases labels.lookup "app.kubernetes.io/version" <;> rfl
  | _ :: _ :: _, _ => rfl

theorem getVersionInfo_eq_sample :
    let d : Deployment := ⟨some [("app.kubernetes.io/name", "kubeblocks"),
      ("app.kubernetes.io/component", "apps"), ("app.kubernetes.io/version", "0.7.0")]⟩
    let c : Client := ⟨.ok (some "v1.27.3"), .ok [d]⟩
    getK8sVersion c = .ok "v1.27.3" ∧
      c.listDeployments "kubeblocks" kubeblocksAppComponent = .ok [d] ∧
      getVersionInfo "kubeblocks" "0.7.1" (some c) =
        (⟨(versionOfDeploys [d]).1, "v1.27.3", "0.7.1"⟩, (versionOfDeploys [d]).2) :=
  ⟨rfl, rfl, getVersionInfo_eq (by rfl) (by rfl)⟩

end Kbcli.Util
