/- Printed tokens are read back.  The kind and the place of a token are what comes before the
first space and after the last sign of its line, and the lexeme is the front of what is between
them, of a length that the kind decides. -/
import LoxLexer.Command
import LoxLexer.Proofs.Document.Settings
import LoxLexer.Proofs.Document.Shapes
import LoxLexer.Proofs.Text.Lines
import LoxLexer.Proofs.Text.Run

namespace LoxLexer

/-! ### Reading a token -/

/-- The lexeme in front of a space and its literal.  The literal of a string has two
characters less, and that of a number is of any length. -/
def Token.lexemeOf (kind : Kind) (contents : List Char) : List Char :=
  match kind with
  | .number => (Text.cutAtFirst ' ' contents).1
  | .string => contents.take ((contents.length + 1) / 2)
  | _ => contents.take (contents.length / 2)

def Token.ofText? (text : List Char) : Option Token :=
  let (front, place) := Text.cutAtLast '@' text
  let (name, contents) := Text.cutAtFirst ' ' front.dropLast
  let (line, column) := Text.cutAtFirst ':' place
  (Kind.ofName? (String.ofList name)).map fun kind =>
    let lexeme := Token.lexemeOf kind contents
    { kind
      lexeme := String.ofList lexeme
      literal := Literal.ofScanned kind lexeme
      line := Nat.ofDigitChars 10 line 0
      column := Nat.ofDigitChars 10 column 0 }

theorem Kind.not_mem_name (kind : Kind) : ' ' ∉ kind.name.toList ∧ '\n' ∉ kind.name.toList := by
  cases kind with
  | symbol mark => cases mark <;> decide
  | keyword word => cases word <;> decide
  | _ => decide

theorem Token.toList_toString (token : Token) :
    token.toString.toList =
      (token.kind.name.toList ++
          ' ' :: (token.lexeme.toList ++ ' ' :: token.literal.toString.toList) ++ [' ']) ++
        '@' :: (Nat.toDigits 10 token.line ++ ':' :: Nat.toDigits 10 token.column) := by
  simp [Token.toString, String.toList_append, Nat.toList_repr]

section

variable {token : Token}

theorem Token.Scanned.lexemeOf_contents (scanned : token.Scanned) :
    Token.lexemeOf token.kind (token.lexeme.toList ++ ' ' :: token.literal.toString.toList) =
      token.lexeme.toList := by
  by_cases isNumber : token.kind = .number
  · rw [isNumber, Token.lexemeOf, Text.cutAtFirst_append (scanned.number isNumber)]
  · by_cases isString : token.kind = .string
    · obtain ⟨content, enclosed, written⟩ := scanned.literal_of_string isString
      have half : (token.lexeme.toList ++ ' ' :: content).length + 1 =
          2 * token.lexeme.toList.length := by
        rw [enclosed]
        simp only [List.length_append, List.length_cons, List.length_nil]
        omega
      rw [isString, Token.lexemeOf, written, half, Nat.mul_div_cancel_left _ (by decide),
        List.take_left]
    · have written := scanned.literal_verbatim isNumber isString
      have half : (token.lexeme.toList ++ ' ' :: token.lexeme.toList).length / 2 =
          token.lexeme.toList.length := by
        simp only [List.length_append, List.length_cons]
        omega
      have lexemeOf : ∀ contents,
          Token.lexemeOf token.kind contents = contents.take (contents.length / 2) := by
        intro contents
        cases kind : token.kind with
        | number => exact absurd kind isNumber
        | string => exact absurd kind isString
        | _ => rfl
      rw [lexemeOf, written, half, List.take_left]

theorem Token.Scanned.ofText?_toString (scanned : token.Scanned) :
    Token.ofText? token.toString.toList = some token := by
  have noSign : '@' ∉ Nat.toDigits 10 token.line ++ ':' :: Nat.toDigits 10 token.column := by
    simp [not_mem_toDigits]
  have noColon : ':' ∉ Nat.toDigits 10 token.line := not_mem_toDigits (by decide) _
  rw [Token.toList_toString, Token.ofText?, Text.cutAtLast_append noSign]
  simp only [List.dropLast_concat, Text.cutAtFirst_append token.kind.not_mem_name.1,
    Text.cutAtFirst_append noColon, String.ofList_toList, Kind.ofName?_name, Option.map_some,
    scanned.lexemeOf_contents, Nat.ofDigitChars_ten_toDigits]
  rw [← scanned.literal]

theorem Token.Scanned.lineFeed_not_mem (scanned : token.Scanned) :
    '\n' ∉ token.toString.toList := by
  have noFeed := fun number => not_mem_toDigits (c := '\n') (by decide) number
  rw [Token.toList_toString]
  simp [token.kind.not_mem_name.2, scanned.oneLine, scanned.lineFeed_not_mem_literal, noFeed]

end

/-! ### The standard output -/

namespace Command

theorem splitOn_tokenLines {tokens : List Token} (scanned : ∀ token ∈ tokens, token.Scanned) :
    (tokenLines tokens).toList.splitOn '\n' =
      tokens.map (fun token => token.toString.toList) ++ [[]] := by
  have ended : (tokenLines tokens).toList =
      (tokens.map fun token => token.toString.toList).flatMap fun line => line ++ ['\n'] := by
    rw [tokenLines, String.toList_join, List.flatMap_map, List.flatMap_map]
    simp only [String.toList_append]
    rfl
  rw [ended, Text.splitOn_ended]
  intro line member
  obtain ⟨token, inTokens, rfl⟩ := List.mem_map.mp member
  exact (scanned token inTokens).lineFeed_not_mem

def tokensOfOutput (stdout : String) : List Token :=
  (stdout.toList.splitOn '\n').dropLast.filterMap Token.ofText?

theorem filterMap_ofText? {tokens : List Token} (scanned : ∀ token ∈ tokens, token.Scanned) :
    (tokens.map fun token => token.toString.toList).filterMap Token.ofText? = tokens := by
  induction tokens with
  | nil => rfl
  | cons token tokens ih =>
      obtain ⟨headScanned, laterScanned⟩ := List.forall_mem_cons.mp scanned
      rw [List.map_cons, List.filterMap_cons_some headScanned.ofText?_toString, ih laterScanned]

theorem tokensOfOutput_tokenLines {tokens : List Token}
    (scanned : ∀ token ∈ tokens, token.Scanned) : tokensOfOutput (tokenLines tokens) = tokens := by
  rw [tokensOfOutput, splitOn_tokenLines scanned, List.dropLast_concat, filterMap_ofText? scanned]

end Command

theorem Document.tokens_of_scan {document : Document} {settings : Settings} {tokens : List Token}
    (scan : document.scan settings = .ok tokens) :
    tokens = (document.report settings).tokens := by
  simp only [Document.scan] at scan
  split at scan
  · cases scan
  · exact (Except.ok.inj scan).symm

open Command (tokenLines)

/-- The standard output of a successful scan has one line for each token, and it tells the
tokens of any two scans apart. -/
theorem tokens_of_stdout {first second : Document} {firstSettings secondSettings : Settings}
    {firstTokens secondTokens : List Token} (firstScan : first.scan firstSettings = .ok firstTokens)
    (secondScan : second.scan secondSettings = .ok secondTokens) :
    (tokenLines firstTokens).toList.splitOn '\n' =
        firstTokens.map (fun token => token.toString.toList) ++ [[]] ∧
      (tokenLines firstTokens = tokenLines secondTokens → firstTokens = secondTokens) := by
  have firstScanned : ∀ token ∈ firstTokens, token.Scanned := by
    rw [Document.tokens_of_scan firstScan]
    exact fun token member => Document.scanned member
  have secondScanned : ∀ token ∈ secondTokens, token.Scanned := by
    rw [Document.tokens_of_scan secondScan]
    exact fun token member => Document.scanned member
  refine ⟨Command.splitOn_tokenLines firstScanned, ?_⟩
  intro same
  rw [← Command.tokensOfOutput_tokenLines firstScanned, same,
    Command.tokensOfOutput_tokenLines secondScanned]

def stdoutSample : Document :=
  { source := "\"a b\"//\" @0:1", file := "shell" }

theorem tokens_of_stdout_stdoutSample :
    let other : Document := { source := stdoutSample.source ++ "\n", file := "other.lox" }
    ∃ firstTokens secondTokens,
      stdoutSample.scan {} = .ok firstTokens ∧ other.scan { mode := .strict } = .ok secondTokens ∧
      (tokenLines firstTokens).toList.splitOn '\n' =
        firstTokens.map (fun token => token.toString.toList) ++ [[]] ∧
      tokenLines firstTokens =
        "String \"a b\" a b @0:0\nComment //\" @0:1 //\" @0:1 @0:5\nEOF   @1:0\n" ∧
      tokenLines firstTokens = tokenLines secondTokens ∧ firstTokens = secondTokens := by
  intro other
  have firstScan : stdoutSample.scan {} = .ok (stdoutSample.report {}).tokens := rfl
  have secondScan : other.scan { mode := .strict } =
      .ok (other.report { mode := .strict }).tokens :=
    Document.scan_strict_of_no_diagnostics (by decide)
  have printed : tokenLines (stdoutSample.report {}).tokens =
      "String \"a b\" a b @0:0\nComment //\" @0:1 //\" @0:1 @0:5\nEOF   @1:0\n" := by
    decide
  have same : tokenLines (stdoutSample.report {}).tokens =
      tokenLines (other.report { mode := .strict }).tokens := by
    decide
  obtain ⟨lines, unambiguous⟩ := tokens_of_stdout firstScan secondScan
  exact ⟨_, _, firstScan, secondScan, lines, printed, same, unambiguous same⟩

end LoxLexer
