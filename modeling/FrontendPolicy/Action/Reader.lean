import FrontendPolicy.Action.Spelling
import FrontendPolicy.Json.Reader

/-!
# Actions in JSON

In JSON an action is a string literal that holds one of its spellings. The words that a literal is
compared with are a list of their own (`Action.words`), which `Action.words_eq` ties to the tokens.
A text that is no action is reported as it was written, not in its normal form.
-/

namespace FrontendPolicy

open Json

/-- The words that a literal is compared with, each with its action. -/
def Action.words : List (String × Action) :=
  [("none", noAction), ("parse", parse), ("typecheck", typecheck), ("dump-parse", dumpParse),
    ("dump-ast", dumpAst), ("emit-syntax", emitSyntax), ("dump-interface-hash", dumpInterfaceHash),
    ("print-ast", printAst), ("dump-scope-maps", dumpScopeMaps),
    ("dump-type-refinement-contexts", dumpTypeRefinementContexts), ("emit-pch", emitPch),
    ("emit-silgen", emitSilGen), ("emit-sil", emitSil), ("emit-sibgen", emitSibGen),
    ("emit-sib", emitSib), ("emit-module-only", emitModuleOnly), ("merge-modules", mergeModules),
    ("immediate", immediate), ("repl", repl), ("emit-assembly", emitAssembly), ("emit-ir", emitIr),
    ("emit-bc", emitBc), ("emit-object", emitObject),
    ("emit-imported-modules", emitImportedModules)]

/-- The action of the first word that is the normal form of a text. -/
def Action.ofWord? (raw : String) : Option Action :=
  (words.find? fun word => word.1 = normalize raw).map (·.2)

/-- The words are the tokens of all actions, each with its own action. -/
theorem Action.words_eq : words = all.map fun a => (a.token, a) := rfl

theorem Action.map_words : words.map (·.1) = tokens := rfl

/-- Looking a text up among the words is looking it up among the tokens. -/
theorem Action.ofWord?_eq_ofText? (raw : String) : ofWord? raw = ofText? raw := by
  have hsnd : (fun word : String × Action => word.2) ∘ (fun a => (a.token, a)) = id := rfl
  rw [ofWord?, ofText?, words_eq, List.find?_map, Option.map_map, hsnd, Option.map_id]
  generalize normalize raw = word
  rfl

/-- The action of a text that has been read, or a loose failure that names the text as it was
written. -/
def Action.ofLiteral (r : Except Failure (String × List Char)) :
    Except Failure (Action × List Char) :=
  match r with
  | .error f => .error f
  | .ok (raw, rest) =>
    match Action.ofWord? raw with
    | some a => .ok (a, rest)
    | none => .error (.loose (.unknownToken raw (Action.words.map (·.1))) rest)

/-- Reads an action. -/
def Action.reader : Reader Action where
  run cs := Action.ofLiteral ((Reader.text "a string").run cs)
  progress h := by
    unfold Action.ofLiteral at h
    split at h
    · simp at h
    · rename_i ht
      split at h
      · simp only [Except.ok.injEq, Prod.mk.injEq] at h
        rw [← h.2]
        exact (Reader.text "a string").progress ht
      · simp at h

/-- The action that a JSON text denotes. -/
def Action.ofJson (text : String) : Except Rejection Action := Action.reader.whole text

end FrontendPolicy
