import BusProbe.Line.Scan
import BusProbe.Token.Classify

/-!
# Operations of a line

The tokens of a group stand for the operations of the group, in order. A group in square brackets is
one transaction: it begins with a start and ends with a stop, also where the operator typed those.
A token of no known class stands for nothing and leaves the rest of its group as it is.

* `lineOperations` — the sequences of the groups of a line.
-/

set_option autoImplicit false
set_option relaxedAutoImplicit false

namespace BusProbe

/-- The operations of a list of tokens. -/
def tokenOperations (tokens : List String) : List Operation :=
  tokens.flatMap fun token ↦ (Token.classify token).operations

theorem tokenOperations_append (first second : List String) :
    tokenOperations (first ++ second) = tokenOperations first ++ tokenOperations second :=
  List.flatMap_append

namespace Group

/-- The operations of a group. -/
def operations (group : Group) : List Operation :=
  match group.opener with
  | .bracket =>
    Operation.ofKind .start :: (tokenOperations group.tokens ++ [Operation.ofKind .stop])
  | _ => tokenOperations group.tokens

/-- The tokens of a group that belong to no class. -/
def unrecognized (group : Group) : List String :=
  group.tokens.filter fun token ↦ Token.classify token = .unrecognized

end Group

/-- The operations of each group of a line. -/
def lineOperations (line : String) : List (List Operation) :=
  (Line.groups line).map Group.operations

end BusProbe
