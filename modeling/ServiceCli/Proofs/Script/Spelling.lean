import ServiceCli.Proofs.Script.Grammar

set_option autoImplicit false
set_option relaxedAutoImplicit false

namespace ServiceCli.Script

def Subscript.tokens : Subscript → List Token
  | .text value => [.mark '[', .text value, .mark ']']
  | .held name => [.mark '[', .word name, .mark ']']

def Place.tokens (p : Place) : List Token := .word p.root :: p.subscripts.flatMap Subscript.tokens

def Reader.tokens : Reader → List Token
  | .place p => p.tokens
  | .lookup p name =>
    p.tokens ++ [.mark '.', .word "get", .mark '(', .text name, .mark ')']

def Kind.word : Kind → String
  | .mapping => "dict"
  | .list => "list"
  | .text => "str"

def kindTestTokens (r : Reader) (kind : Kind) : List Token :=
  r.tokens ++ [.mark ',', .word kind.word, .mark ')']

def Check.tokens : Check → List Token
  | .given r => r.tokens ++ [.word "is", .word "not", .word "None"]
  | .isKind r kind => .word "isinstance" :: .mark '(' :: kindTestTokens r kind
  | .notKind r kind => .word "not" :: .word "isinstance" :: .mark '(' :: kindTestTokens r kind

def Call.tokens : Call → List Token
  | .readBlob p label => [.word "rt", .mark '.', .word "read_blob", .mark '('] ++ p.tokens
      ++ [.mark ',', .text label, .mark ')']
  | .openBlob p label => [.word "rt", .mark '.', .word "stream_blob", .mark '('] ++ p.tokens
      ++ [.mark ',', .text label, .mark ')']
  | .serialize p => [.word "rt", .mark '.', .word "serialize_document", .mark '('] ++ p.tokens
      ++ [.mark ')']

/-- The variable of a tree can be a variable, and is not the test for a kind. -/
def IsRoot (name : String) : Prop := isName name = true ∧ name ≠ "isinstance"

/-- The variables of a place can be variables. -/
structure Place.IsNamed (p : Place) : Prop where
  root : IsRoot p.root
  held : ∀ name, Subscript.held name ∈ p.subscripts → isName name = true

def Reader.subject : Reader → Place
  | .place p => p
  | .lookup p _ => p

/-- The expression that a condition tests. -/
def Check.subject : Check → Reader
  | .given r => r
  | .isKind r _ => r
  | .notKind r _ => r

def Call.argument : Call → Place
  | .readBlob p _ => p
  | .openBlob p _ => p
  | .serialize p => p

variable {rest : List Token}

def endsPlace : List Token → Bool
  | .mark '[' :: _ => false
  | .mark '.' :: _ => false
  | _ => true

theorem takeSubscripts_tokens {subscripts : List Subscript}
    (named : ∀ name, Subscript.held name ∈ subscripts → isName name = true)
    (ends : ∀ tokens, rest ≠ .mark '[' :: tokens) :
    takeSubscripts (subscripts.flatMap Subscript.tokens ++ rest) = (subscripts, rest) := by
  induction subscripts with
  | nil =>
    rw [List.flatMap_nil, List.nil_append, takeSubscripts]
    · exact fun value tokens spelt => ends _ spelt
    · exact fun name tokens spelt => ends _ spelt
  | cons s subscripts ih =>
    have later := ih fun name member => named name (List.mem_cons_of_mem s member)
    cases s with
    | text value =>
      simp only [List.flatMap_cons, Subscript.tokens, List.cons_append, List.nil_append]
      rw [takeSubscripts, later]
    | held name =>
      simp only [List.flatMap_cons, Subscript.tokens, List.cons_append, List.nil_append]
      rw [takeSubscripts, if_pos (named name List.mem_cons_self), later]

theorem takePlace_tokens {p : Place} (named : p.IsNamed)
    (ends : ∀ tokens, rest ≠ .mark '[' :: tokens) :
    takePlace (p.tokens ++ rest) = some (p, rest) := by
  rw [Place.tokens, List.cons_append, takePlace, if_pos named.root.1,
    takeSubscripts_tokens named.held ends]

theorem takeReader_tokens {r : Reader} (named : r.subject.IsNamed) (ends : endsPlace rest = true) :
    takeReader (r.tokens ++ rest) = some (r, rest) := by
  have open_ : ∀ tokens, rest ≠ .mark '[' :: tokens := by
    rintro tokens rfl
    exact absurd ends (by simp [endsPlace])
  have point : ∀ tokens, rest ≠ .mark '.' :: tokens := by
    rintro tokens rfl
    exact absurd ends (by simp [endsPlace])
  cases r with
  | place p =>
    have place : takePlace (p.tokens ++ rest) = some (p, rest) := takePlace_tokens named open_
    have member : takeMember p rest = (.place p, rest) := by
      rw [takeMember]
      exact fun _ _ spelt => point _ spelt
    rw [Reader.tokens, takeReader, place]
    exact congrArg some member
  | lookup p name =>
    have place : takePlace (p.tokens ++ (.mark '.' :: .word "get" :: .mark '(' :: .text name
        :: .mark ')' :: rest)) = some (p, _) := takePlace_tokens named (by simp)
    rw [Reader.tokens, List.append_assoc, takeReader]
    simp only [List.cons_append, List.nil_append, place]
    rfl

/-- Where an expression is followed by something else than a subscript or a member, it is the whole
of what is read. -/
theorem takeKindTest_tokens {r : Reader} (named : r.subject.IsNamed) (kind : Kind) :
    takeKindTest (kindTestTokens r kind ++ rest) = some ((r, kind), rest) := by
  have word : kind? kind.word = some kind := by cases kind <;> rfl
  rw [kindTestTokens, List.append_assoc, takeKindTest, takeReader_tokens named rfl]
  simp only [List.cons_append, word]
  rfl

theorem takeCheck_tokens {check : Check} (named : check.subject.subject.IsNamed) :
    takeCheck (check.tokens ++ rest) = some (check, rest) := by
  cases check with
  | given r =>
    have spelt : ∃ tokens, r.tokens = .word r.subject.root :: tokens := by
      cases r <;> exact ⟨_, rfl⟩
    obtain ⟨tokens, spelt⟩ := spelt
    have read : takeReader (r.tokens ++ (.word "is" :: .word "not" :: .word "None" :: rest))
        = some (r, _) := takeReader_tokens named rfl
    rw [Check.tokens, List.append_assoc]
    simp only [List.cons_append, List.nil_append]
    rw [spelt] at read ⊢
    rw [List.cons_append] at read ⊢
    rw [takeCheck, read]
    · rfl
    · intro rest same
      exact named.root.2 (Token.word.inj (List.cons.inj same).1)
    · intro rest same
      have name := named.root.1
      rw [show (Check.given r).subject.subject.root = "not" from
        Token.word.inj (List.cons.inj same).1] at name
      exact absurd name (by decide)
  | isKind r kind =>
    have test : takeKindTest (kindTestTokens r kind ++ rest) = some ((r, kind), rest) :=
      takeKindTest_tokens named kind
    rw [Check.tokens, List.cons_append, List.cons_append, takeCheck, test]
    rfl
  | notKind r kind =>
    have test : takeKindTest (kindTestTokens r kind ++ rest) = some ((r, kind), rest) :=
      takeKindTest_tokens named kind
    rw [Check.tokens, List.cons_append, List.cons_append, List.cons_append, takeCheck, test]
    rfl

theorem line?_when {check : Check} (named : check.subject.subject.IsNamed) :
    line? (.word "if" :: (check.tokens ++ [.mark ':'])) = some (.opening (.when [check])) := by
  rw [line?, checks?, takeCheck_tokens named]
  rfl

theorem line?_when_and {first second : Check} (named : first.subject.subject.IsNamed)
    (alsoNamed : second.subject.subject.IsNamed) :
    line? (.word "if" :: (first.tokens ++ .word "and" :: (second.tokens ++ [.mark ':'])))
      = some (.opening (.when [first, second])) := by
  rw [line?, checks?, takeCheck_tokens named]
  simp only [takeCheck_tokens alsoNamed]
  rfl

theorem line?_overIndices {name : String} {p : Place} (variable_ : isName name = true)
    (named : p.IsNamed) :
    line? (.word "for" :: .word name :: .word "in" :: .word "range" :: .mark '(' :: .word "len"
        :: .mark '(' :: (p.tokens ++ [.mark ')', .mark ')', .mark ':']))
      = some (.opening (.overIndices name p)) := by
  have place : takePlace (p.tokens ++ [.mark ')', .mark ')', .mark ':']) = some (p, _) :=
    takePlace_tokens named (by simp)
  rw [line?, loop?, if_pos variable_, loopPlace?, place]
  rfl

theorem line?_overMembers {name : String} {p : Place} (variable_ : isName name = true)
    (named : p.IsNamed) :
    line? (.word "for" :: .word name :: .word "in" :: .word "list" :: .mark '('
        :: (p.tokens ++ [.mark ')', .mark ':']))
      = some (.opening (.overMembers name p)) := by
  have place : takePlace (p.tokens ++ [.mark ')', .mark ':']) = some (p, _) :=
    takePlace_tokens named (by simp)
  rw [line?, loop?, if_pos variable_, loopPlace?, place]
  rfl

theorem call?_tokens {call : Call} (named : call.argument.IsNamed) :
    call? call.tokens = some call := by
  cases call with
  | readBlob p label =>
    have place : takePlace (p.tokens ++ [.mark ',', .text label, .mark ')']) = some (p, _) :=
      takePlace_tokens named (by simp)
    rw [Call.tokens, List.append_assoc]
    simp only [List.cons_append, List.nil_append, call?, place]
    rfl
  | openBlob p label =>
    have place : takePlace (p.tokens ++ [.mark ',', .text label, .mark ')']) = some (p, _) :=
      takePlace_tokens named (by simp)
    rw [Call.tokens, List.append_assoc]
    simp only [List.cons_append, List.nil_append, call?, place]
    rfl
  | serialize p =>
    have place : takePlace (p.tokens ++ [.mark ')']) = some (p, _) :=
      takePlace_tokens named (by simp)
    rw [Call.tokens, List.append_assoc]
    simp only [List.cons_append, List.nil_append, call?, place]
    rfl

theorem line?_store {target : Place} {call : Call} (named : target.IsNamed)
    (alsoNamed : call.argument.IsNamed) :
    line? (target.tokens ++ .mark '=' :: call.tokens) = some (.store target call) := by
  have place : takePlace (target.tokens ++ .mark '=' :: call.tokens) = some (target, _) :=
    takePlace_tokens named (by simp)
  have name := named.root.1
  rw [Place.tokens, List.cons_append] at place ⊢
  rw [line?, place]
  · simp only [call?_tokens alsoNamed]
    rfl
  · intro rest same
    rw [show target.root = "if" from Token.word.inj (List.cons.inj same).1] at name
    exact absurd name (by decide)
  · intro rest same
    rw [show target.root = "for" from Token.word.inj (List.cons.inj same).1] at name
    exact absurd name (by decide)

end ServiceCli.Script
