import WorkflowAudit.Decimal.Shortest
import WorkflowAudit.Text.Quoted
import WorkflowAudit.Text.Search
import WorkflowAudit.Value.Basic

/-! # The text of a value

`Value.written` is the form in which a value appears inside another one or in a message;
`Value.displayed` is the form in which it is printed on its own, which differs only in that a text
stands without quotes.  A value has neither when an integer in it is too long (`Value.isShowable`).
-/

namespace WorkflowAudit

namespace Value

/-- The name of the kind of a value, as messages give it. -/
def typeName : Value → String
  | .null => "NoneType"
  | .bool _ => "bool"
  | .int _ => "int"
  | .float _ => "float"
  | .text _ => "str"
  | .bytes _ => "bytes"
  | .date _ => "datetime.date"
  | .moment m => if m.zoned then "TimeStamp" else "datetime.datetime"
  | .list .plain _ => "list"
  | .list .document _ => "CommentedSeq"
  | .list .fixed _ => "tuple"
  | .map .plain _ => "dict"
  | .map .document _ => "CommentedMap"
  | .map .ordered _ => "CommentedOrderedMap"
  | .map .fixed _ => "CommentedKeyMap"
  | .set _ => "CommentedSet"
  | .tagged _ _ => "TaggedScalar"

/-- Texts joined by a comma and a space. -/
def commaSeparated : List (List Char) → List Char
  | [] => []
  | [item] => item
  | item :: rest => item ++ ',' :: ' ' :: commaSeparated rest

/-- A name applied to arguments. -/
def applied (name : String) (arguments : List (List Char)) : List Char :=
  name.toList ++ '(' :: commaSeparated arguments ++ [')']

/-- The written form of a date. -/
def writtenDate (d : Date) : List Char :=
  applied "datetime.date" ([d.year, d.month, d.day].map Text.decimalDigits)

/-- The written form of a moment: seconds and microseconds are left out where they are zero to the
end. -/
def writtenMoment (m : Moment) : List Char :=
  let seconds :=
    if m.microsecond ≠ 0 then [m.second, m.microsecond]
    else if m.second ≠ 0 then [m.second]
    else []
  applied (if m.zoned then "TimeStamp" else "datetime.datetime")
    (([m.date.year, m.date.month, m.date.day, m.hour, m.minute] ++ seconds).map Text.decimalDigits)

/-- A parenthesised group; a group of one item keeps a comma. -/
def writtenGroup : List (List Char) → List Char
  | [item] => '(' :: item ++ [',', ')']
  | items => '(' :: commaSeparated items ++ [')']

/-- A mapping written as a list of pairs under a name; an empty one is the name applied to
nothing. -/
def writtenPairs (name : String) (entries : List (List Char × List Char)) : List Char :=
  if entries.isEmpty then applied name []
  else
    let pairs := entries.map fun (k, v) => writtenGroup [k, v]
    applied name ['[' :: commaSeparated pairs ++ [']']]

mutual

/-- The form of a value inside another one.  A mapping of a document is written as a list of pairs
under the name `ordereddict`, which also takes the place of the document mapping's own name anywhere
in the text. -/
def written : Value → List Char
  | .null => "None".toList
  | .bool b => if b then "True".toList else "False".toList
  | .int n => Text.integerText n
  | .float x => Decimal.floatText x
  | .text s => Text.quoted s.toList
  | .bytes bs => Text.quotedBytes bs
  | .date d => writtenDate d
  | .moment m => writtenMoment m
  | .list .fixed items => writtenGroup (writtenItems items)
  | .list _ items => '[' :: commaSeparated (writtenItems items) ++ [']']
  | .map .plain entries =>
    '{' :: commaSeparated ((writtenEntries entries).map fun (k, v) => k ++ ':' :: ' ' :: v) ++ ['}']
  | .map .document entries =>
    Text.replaceAll "CommentedMap".toList "ordereddict".toList
      (writtenPairs "CommentedMap" (writtenEntries entries))
  | .map .ordered entries => writtenPairs "CommentedOrderedMap" (writtenEntries entries)
  | .map .fixed entries => writtenPairs "ordereddict" (writtenEntries entries)
  | .set members =>
    applied "set" [applied "odict_keys" ['[' :: commaSeparated (writtenItems members) ++ [']']]]
  | .tagged _ _ => "<ruamel.yaml.comments.TaggedScalar object>".toList

/-- The written forms of items. -/
def writtenItems : List Value → List (List Char)
  | [] => []
  | v :: rest => written v :: writtenItems rest

/-- The written forms of entries. -/
def writtenEntries : Entries → List (List Char × List Char)
  | [] => []
  | (k, v) :: rest => (written k, written v) :: writtenEntries rest

end

mutual

/-- Whether a value can be turned into text: no integer in it is too long. -/
def isShowable : Value → Bool
  | .int n => !Text.isLong n
  | .list _ items | .set items => areShowable items
  | .map _ entries => areShowableEntries entries
  | _ => true

/-- Whether all of some items can be turned into text. -/
def areShowable : List Value → Bool
  | [] => true
  | v :: rest => isShowable v && areShowable rest

/-- Whether all keys and values of some entries can be turned into text. -/
def areShowableEntries : Entries → Bool
  | [] => true
  | (k, v) :: rest => isShowable k && isShowable v && areShowableEntries rest

end

/-- The form of a value that stands on its own. -/
def displayed : Value → List Char
  | .text s => s.toList
  | .date d => d.text
  | .moment m => m.textWith ' '
  | .tagged _ content => content.toList
  | v => v.written

end Value

end WorkflowAudit
