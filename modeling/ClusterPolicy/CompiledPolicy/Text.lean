import ClusterPolicy.Cedar.Grammar
import ClusterPolicy.CompiledPolicy
import ClusterPolicy.Condition.Text

namespace ClusterPolicy.CompiledPolicy

open Cedar (ActionScope EntityUid Lexeme Scope Token)
open Condition (spaced)

def annotationLexemes (key value : String) : List Lexeme :=
  [.symbol .atSign, .word key, .symbol .parenOpen, .quote value, .symbol .parenClose, .line 0]

def uidLexemes (uid : EntityUid) : List Lexeme := (Token.ofUid uid).map .token

def scopeLexemes (var : String) : Scope → List Lexeme
  | .any => [.word var]
  | .equal uid => .word var :: spaced (.symbol .equal) ++ uidLexemes uid
  | .within uid => .word var :: spaced (.word "in") ++ uidLexemes uid
  | .ofType type => .word var :: spaced (.word "is") ++ (Token.ofName type).map .token

def actionLexemes : ActionScope → List Lexeme
  | .any => [.word "action"]
  | .equal uid => .word "action" :: spaced (.symbol .equal) ++ uidLexemes uid
  | .within uids =>
    .word "action" :: spaced (.word "in") ++ .symbol .bracketOpen ::
      [Lexeme.symbol .comma, .blank].intercalate (uids.map uidLexemes) ++ [.symbol .bracketClose]

def conditionLexemes : Condition → List Lexeme
  | .empty => []
  | condition =>
    [.line 0, .word "when", .blank, .symbol .braceOpen, .blank] ++ condition.lexemes ++
      [.blank, .symbol .braceClose]

def lexemes (policy : CompiledPolicy) : List Lexeme :=
  policy.writtenAnnotations.flatMap (fun (key, value) => annotationLexemes key value) ++
    [.word policy.effect.name, .blank, .symbol .parenOpen, .line 2] ++
    scopeLexemes "principal" policy.principal ++ [.symbol .comma, .line 2] ++
    actionLexemes policy.action ++ [.symbol .comma, .line 2] ++
    scopeLexemes "resource" policy.resource ++ [.line 0, .symbol .parenClose] ++
    conditionLexemes policy.condition ++ [.symbol .semicolon]

def text (policy : CompiledPolicy) : String := String.ofList (Cedar.textOf policy.lexemes)

/-- The policy that the text is read as, under the id that the compiler gave. -/
def toCedar? (policy : CompiledPolicy) : Option Cedar.Policy :=
  match Cedar.parseStatements? policy.text with
  | some [statement] => statement.policy?.map fun build => build policy.id
  | _ => none

end ClusterPolicy.CompiledPolicy
