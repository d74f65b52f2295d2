/-
# The generator and the transformer of an HTTP test without a plugin

`run_test_impl` fills in what the caller leaves out: a generator that goes through the targets in
turn, and a transformer that adds the configured headers. Which transformer that is depends on
the headers at the start: without any it is `NoopTransformer`. Unless connections are kept alive
it is wrapped in one that may ask the server to close the connection.
-/
import Netanvil.Core.FireSystem
import Netanvil.Types.Connection

namespace Netanvil.Core

open Netanvil.Types

variable {Method : Type}

structure HttpRequestSpec (Method : Type) where
  method : Method
  url : String
  headers : List (String × String)
  body : Option (List UInt8)

/-! ## The generator -/

structure SimpleGenerator (Method : Type) where
  targets : List String
  method : Method
  index : Nat
  /-- Asserted by `new`, and kept by `update_targets`. -/
  nonempty : targets ≠ []

namespace SimpleGenerator

/-- The target in turn. -/
def target (g : SimpleGenerator Method) : String :=
  g.targets.get ⟨g.index % g.targets.length, Nat.mod_lt _ (List.length_pos_iff.mpr g.nonempty)⟩

def generate (g : SimpleGenerator Method) : HttpRequestSpec Method × SimpleGenerator Method :=
  (⟨g.method, g.target, [], none⟩, { g with index := g.index + 1 })

def updateTargets (g : SimpleGenerator Method) (targets : List String) : SimpleGenerator Method :=
  if nonempty : targets ≠ [] then ⟨targets, g.method, 0, nonempty⟩ else g

end SimpleGenerator

/-! ## The transformers -/

/-- `NoopTransformer` and `HeaderTransformer`. -/
inductive BaseTransformer where
  | noop
  | header (headers : List (String × String))

namespace BaseTransformer

def transform (spec : HttpRequestSpec Method) : BaseTransformer → HttpRequestSpec Method
  | .noop => spec
  | .header headers => { spec with headers := spec.headers ++ headers }

/-- `NoopTransformer` has the trait's default, which does nothing. -/
def updateMetadata (headers : List (String × String)) : BaseTransformer → BaseTransformer
  | .noop => .noop
  | .header _ => .header headers

end BaseTransformer

/-- What a transformer will draw: whether to keep a connection, and lifetimes. -/
structure Draws where
  persist : Stream' Bool
  lifetimes : Stream' Nat

structure ConnectionPolicyTransformer where
  inner : BaseTransformer
  policy : ConnectionPolicy
  lifecycle : Option LifecycleCounter
  draws : Draws

namespace ConnectionPolicyTransformer

def new (inner : BaseTransformer) (policy : ConnectionPolicy) (draws : Draws) :
    ConnectionPolicyTransformer :=
  match policy with
  | .mixed _ (some _) =>
    ⟨inner, policy, some (.new draws.lifetimes.head),
      { draws with lifetimes := draws.lifetimes.tail }⟩
  | _ => ⟨inner, policy, none, draws⟩

/-- Draw whether the connection is kept. -/
def flip (t : ConnectionPolicyTransformer) : Bool × ConnectionPolicyTransformer :=
  (!t.draws.persist.head, { t with draws := { t.draws with persist := t.draws.persist.tail } })

/-- Whether the next request closes its connection. -/
def close (t : ConnectionPolicyTransformer) : Bool × ConnectionPolicyTransformer :=
  match t.policy with
  | .keepAlive => (false, t)
  | .alwaysNew => (true, t)
  | .noReuse => (false, t)
  | .mixed _ _ =>
    match t.lifecycle with
    | none => t.flip
    | some lc =>
      match lc.tick with
      | (_, true) =>
        -- the closing request counts as the first of the new connection
        let renewed := (lc.reset t.draws.lifetimes.head).tick.1
        (true, { t with
          lifecycle := some renewed
          draws := { t.draws with lifetimes := t.draws.lifetimes.tail } })
      | (ticked, false) => { t with lifecycle := some ticked }.flip

theorem close_inner (t : ConnectionPolicyTransformer) : t.close.2.inner = t.inner := by
  unfold close
  split
  · rfl
  · rfl
  · rfl
  · split
    · rfl
    · split <;> rfl

end ConnectionPolicyTransformer

inductive Transformer where
  | base (inner : BaseTransformer)
  | withPolicy (t : ConnectionPolicyTransformer)

namespace Transformer

/-- The transformer below the connection policy. -/
def inner : Transformer → BaseTransformer
  | .base inner => inner
  | .withPolicy t => t.inner

/-- What the connection policy adds to the headers of the next request. -/
def added : Transformer → List (String × String)
  | .base _ => []
  | .withPolicy t => if t.close.1 then [("Connection", "close")] else []

/-- After a request. -/
def moved : Transformer → Transformer
  | .base inner => .base inner
  | .withPolicy t => .withPolicy t.close.2

def transform (t : Transformer) (spec : HttpRequestSpec Method) :
    HttpRequestSpec Method × Transformer :=
  let spec := t.inner.transform spec
  ({ spec with headers := spec.headers ++ t.added }, t.moved)

def updateMetadata (headers : List (String × String)) : Transformer → Transformer
  | .base inner => .base (inner.updateMetadata headers)
  | .withPolicy t => .withPolicy { t with inner := t.inner.updateMetadata headers }

@[simp] theorem moved_inner (t : Transformer) : t.moved.inner = t.inner := by
  cases t with
  | base inner => rfl
  | withPolicy t => exact t.close_inner

@[simp] theorem updateMetadata_inner (headers : List (String × String)) (t : Transformer) :
    (t.updateMetadata headers).inner = t.inner.updateMetadata headers := by
  cases t with
  | base inner | withPolicy t => rfl

end Transformer

/-! ## What `run_test_impl` fills in -/

/-- The generator wants no responses. -/
def httpPipeline (Method : Type) :
    Pipeline (SimpleGenerator Method) Transformer (HttpRequestSpec Method) where
  generate g _ := g.generate
  onResponse g _ := g
  wantsResponses _ := false
  updateTargets := SimpleGenerator.updateTargets
  transform t spec _ := t.transform spec
  updateMetadata t headers := t.updateMetadata headers

/-- An HTTP test: its configuration, and what is drawn in the course of it. -/
structure HttpTest (n : Nat) (H Method : Type) where
  targets : List String
  /-- `SimpleGenerator::new` panics without a target. -/
  nonempty : targets ≠ []
  method : String
  headers : List (String × String)
  connectionPolicy : ConnectionPolicy
  /-- `http::Method`'s parser, and its `GET`. -/
  parseMethod : String → Option Method
  get : Method
  scheduler : RequestScheduler H
  schedulers : Fin n → H
  text : Metrics.TextFunctions
  config : Fin n → IoWorkerConfig
  draws : Fin n → Draws

namespace HttpTest

variable {n : Nat} {H : Type}

def generator (test : HttpTest n H Method) : SimpleGenerator Method :=
  ⟨test.targets, (test.parseMethod test.method).getD test.get, 0, test.nonempty⟩

def baseTransformer (headers : List (String × String)) : BaseTransformer :=
  if headers.isEmpty then .noop else .header headers

def transformer (test : HttpTest n H Method) (i : Fin n) : Transformer :=
  match test.connectionPolicy with
  | .keepAlive => .base (baseTransformer test.headers)
  | policy => .withPolicy (.new (baseTransformer test.headers) policy (test.draws i))

def setup (test : HttpTest n H Method) :
    FireSetup n H (SimpleGenerator Method) Transformer (HttpRequestSpec Method) where
  scheduler := test.scheduler
  pipeline := httpPipeline Method
  text := test.text
  config := test.config
  schedulers := test.schedulers
  generators _ := test.generator
  transformers := test.transformer

end HttpTest

end Netanvil.Core
