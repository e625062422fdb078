import Steading.Address
import Steading.Url.Percent

/-!
# Paths of URLs

A path is a list of segments. A segment of one dot stands for the place it is in and one of two
dots for the place above, and neither stays in the path; a dot may be percent-encoded.
-/

namespace Steading.UrlPath

/-- A segment with its dots decoded. -/
def plainDots : List Char → List Char
  | '%' :: '2' :: 'e' :: cs => '.' :: plainDots cs
  | '%' :: '2' :: 'E' :: cs => '.' :: plainDots cs
  | c :: cs => c :: plainDots cs
  | [] => []

/-- The path after more segments. A path that ends in dots ends in a slash. -/
def walk : List (List Char) → List (List Char) → List (List Char)
  | path, [] => path
  | path, s :: ss =>
    let path := if plainDots s = ['.', '.'] then path.dropLast
      else if plainDots s = ['.'] then path
      else path ++ [s]
    let isDots := plainDots s == ['.'] || plainDots s == ['.', '.']
    if ss.isEmpty && isDots then path ++ [[]] else walk path ss

/-- The segments of a text behind its first slash, encoded and without dots. -/
def ofChars (cs : List Char) : List (List Char) :=
  walk [] ((Address.pieces '/' cs).map (Percent.encode Percent.path))

def text (segments : List (List Char)) : List Char :=
  segments.flatMap ('/' :: ·)

end Steading.UrlPath
