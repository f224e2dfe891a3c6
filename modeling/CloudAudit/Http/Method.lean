/-! HTTP methods: tokens of letters, digits and some marks, in which case counts. -/
namespace CloudAudit.Http

def isTokenChar (c : Char) : Bool := c.isAlphanum || "!#$%&'*+-.^_`|~".toList.contains c

def isToken (s : String) : Bool := !s.toList.isEmpty && s.toList.all isTokenChar

structure Method where
  token : String
  isToken : isToken token = true
deriving DecidableEq

/-- The methods that are told apart; all others are alike. -/
inductive Verb where
  | get
  | post
  | put
  | patch
  | delete
  | head
  | other
deriving DecidableEq, Repr

def Verb.token? : Verb → Option String
  | get => some "GET"
  | post => some "POST"
  | put => some "PUT"
  | patch => some "PATCH"
  | delete => some "DELETE"
  | head => some "HEAD"
  | other => none

def knownTokens : List String := ["GET", "POST", "PUT", "PATCH", "DELETE", "HEAD"]

namespace Method

def ofString? (s : String) : Option Method :=
  if valid : Http.isToken s = true then some ⟨s, valid⟩ else none

def get : Method := ⟨"GET", by decide⟩

def verb (method : Method) : Verb :=
  match method.token with
  | "GET" => .get
  | "POST" => .post
  | "PUT" => .put
  | "PATCH" => .patch
  | "DELETE" => .delete
  | "HEAD" => .head
  | _ => .other

theorem slash_not_mem_token (method : Method) : '/' ∉ method.token.toList := by
  intro inside
  obtain ⟨_, tokenChars⟩ := Bool.and_eq_true_iff.1 method.isToken
  have allowed := List.all_eq_true.1 tokenChars '/' inside
  revert allowed
  decide

theorem verb_eq_iff (method : Method) {verb : Verb} {token : String}
    (named : verb.token? = some token) : method.verb = verb ↔ method.token = token := by
  unfold Method.verb
  split <;> cases verb <;> cases named <;> simp_all

theorem verb_eq_post_iff (method : Method) : method.verb = .post ↔ method.token = "POST" :=
  method.verb_eq_iff rfl

end Method

end CloudAudit.Http
