import HubRoutes.Route.Fault
import Mathlib.Data.List.Induction

/-!
# Faults in contexts

A fault may be surrounded by any number of contexts, the innermost first. Its root stays what it was, and its
wording is that of the contexts, the outermost first, and then its own. Every fault is its root in some contexts.
-/

namespace HubRoutes.Route.Fault

/-- What a wrapper says: the pair of chains for which a fault arose, and the kind of the route between them. -/
structure Wrapper where
  kind : Kind
  fromChain : ChainId
  toChain : ChainId
deriving DecidableEq

/-- The wording of a context. -/
def Wrapper.text (context : Wrapper) : String :=
  "failed to transform " ++ context.kind.text ++ " route " ++ context.fromChain.text ++ "->" ++
    context.toChain.text ++ ": "

variable {fault : Fault} {contexts : List Wrapper}

/-- A fault in contexts, each of which surrounds those before it. -/
def inContexts (fault : Fault) (contexts : List Wrapper) : Fault :=
  contexts.foldl (fun cause context ↦ .inRoute context.kind context.fromChain context.toChain cause) fault

theorem inContexts_append_singleton (fault : Fault) (contexts : List Wrapper) (context : Wrapper) :
    fault.inContexts (contexts ++ [context]) =
      .inRoute context.kind context.fromChain context.toChain (fault.inContexts contexts) := by
  rw [inContexts, List.foldl_append, List.foldl_cons, List.foldl_nil, inContexts]

/-- A fault that is no wrapper is its own root. -/
theorem root_of_isWrapped (hbare : fault.isWrapped = false) : fault.root = fault := by
  cases fault with
  | inRoute => cases hbare
  | _ => rfl

/-- The root of a fault is no wrapper. -/
theorem isWrapped_root (fault : Fault) : fault.root.isWrapped = false := by
  induction fault with
  | inRoute _ _ _ _ ih => exact ih
  | _ => rfl

/-- Contexts leave the root alone. -/
theorem root_inContexts (fault : Fault) (contexts : List Wrapper) :
    (fault.inContexts contexts).root = fault.root := by
  -- The last context is the outermost one, which the root passes first.
  induction contexts using List.reverseRecOn with
  | nil => rfl
  | append_singleton contexts context ih =>
    rw [inContexts_append_singleton]
    exact ih

/-- The message is that of the fault behind the words of its contexts, the last one first. -/
theorem message_inContexts (fault : Fault) (contexts : List Wrapper) :
    (fault.inContexts contexts).message = String.join (contexts.reverse.map Wrapper.text) ++ fault.message := by
  induction contexts using List.reverseRecOn with
  | nil => rw [List.reverse_nil, List.map_nil, String.join_nil, String.empty_append, inContexts, List.foldl_nil]
  | append_singleton contexts context ih =>
    rw [List.reverse_concat, List.map_cons, String.join_cons, String.append_assoc, ← ih, inContexts_append_singleton]
    rfl

/-- Every fault is its root in some contexts. -/
theorem exists_eq_inContexts (fault : Fault) : ∃ contexts, fault = fault.root.inContexts contexts := by
  induction fault with
  | inRoute kind fromChain toChain cause ih =>
    obtain ⟨contexts, hcause⟩ := ih
    refine ⟨contexts ++ [⟨kind, fromChain, toChain⟩], ?_⟩
    rw [inContexts_append_singleton, root, ← hcause]
  | _ => exact ⟨[], rfl⟩

/-- Whatever contexts a fault is put in, its root is the same and is no wrapper, and what is said is the wording of
the contexts from the last to the first and then the wording of the fault, once. The root of the root is the root
itself, and the fault is nothing but its root in contexts. -/
theorem contexts_surround_one_root (fault : Fault) (contexts : List Wrapper) :
    (fault.inContexts contexts).root = fault.root ∧ (fault.inContexts contexts).root.isWrapped = false ∧
      (fault.inContexts contexts).message =
        String.join (contexts.reverse.map Wrapper.text) ++ fault.message ∧
      fault.root.root = fault.root ∧ ∃ inner, fault = fault.root.inContexts inner := by
  refine ⟨root_inContexts fault contexts, ?_, message_inContexts fault contexts, ?_, exists_eq_inContexts fault⟩
  · exact isWrapped_root _
  · exact root_of_isWrapped (isWrapped_root fault)

end HubRoutes.Route.Fault
