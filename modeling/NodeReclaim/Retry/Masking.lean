import NodeReclaim.Text.Lower
import NodeReclaim.Text.Search

/-! Error texts fit for a log: at most two hundred characters, and nothing after a word that
announces a credential. -/
namespace NodeReclaim.Retry
open Text

def credentialMarks : List String :=
  ["secret=", "password=", "token=", "key=", "authorization:"]

def maxTextLength : Nat := 200

def shortened (s : List Char) : List Char :=
  if maxTextLength < s.length then s.take maxTextLength ++ "...".toList else s

/-- Cuts the text at the first place of a mark in its lowercase form. -/
def hideAfter (s : List Char) (mark : String) : List Char :=
  match find? mark.toList (lower s) with
  | some i => s.take i ++ mark.toList ++ "***".toList
  | none => s

def masked (text : String) : String :=
  String.ofList (credentialMarks.foldl hideAfter (shortened text.toList))

end NodeReclaim.Retry
