import SafeReadme.Url.Basic

/-!
# Addresses in angle brackets

Each reader gets what stands behind `<` and returns the address and what follows `>`.
-/

namespace SafeReadme.Markdown

/-- Reads an address with a scheme of 2 to 32 characters. -/
def uri? (cs : List Char) : Option (List Char × List Char) :=
  match cs with
  | [] => none
  | c :: _ =>
      let scheme := cs.takeWhile (fun c => c.isAlphanum || c = '.' || c = '-' || c = '+')
      match cs.drop scheme.length with
      | ':' :: rest =>
          if !c.isAlpha || scheme.length < 2 || 32 < scheme.length then none
          else
            let path := rest.takeWhile (fun c => ' ' < c && c != '<' && c != '>')
            match rest.drop path.length with
            | '>' :: behind => some (scheme ++ ':' :: path, behind)
            | _ => none
      | _ => none

def isMailChar (c : Char) : Bool :=
  c.isAlphanum || ".!#$%&*+/=?^_|~-".toList.contains c || c = '\x27' || c = '\x60' || c = '\x7b' ||
    c = '\x7d'

def isMailLabel (label : List Char) : Bool :=
  !label.isEmpty && label.length ≤ 63 && label.all (fun c => c.isAlphanum || c = '-') &&
    label.head? != some '-' && label.getLast? != some '-'

def dotted (cs : List Char) : List (List Char) :=
  cs.splitOn '.'

def mail? (cs : List Char) : Option (List Char × List Char) :=
  let user := cs.takeWhile isMailChar
  match cs.drop user.length with
  | '@' :: rest =>
      let domain := rest.takeWhile (fun c => c.isAlphanum || c = '-' || c = '.')
      match rest.drop domain.length with
      | '>' :: behind =>
          if !user.isEmpty && (dotted domain).all isMailLabel then
            some (user ++ '@' :: domain, behind)
          else none
      | _ => none
  | _ => none

end SafeReadme.Markdown
