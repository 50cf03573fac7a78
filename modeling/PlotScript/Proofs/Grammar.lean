import PlotScript.Node.Parser
import PlotScript.Proofs.Numeral

/-!
The grammar of scripts on tokens, with the tree of every phrase. A rule looks at the kinds of tokens,
at the words of directives and functions, and at whether a numeral has a point; what else a token
holds goes into the tree.
-/

namespace PlotScript.Grammar

/-- The layers of an expression, the tightest last. -/
inductive Phrase
  | sum
  | product
  | row
  | operand
  deriving DecidableEq, Repr

def sumSigns : List (TokenKind × Operator) := [(.plus, .add), (.minus, .sub)]

def productSigns : List (TokenKind × Operator) := [(.times, .mul), (.divide, .div)]

def joined (operator : Operator) (left right : Node) : Node :=
  .arithmetic operator left right (Span.hull? left.span right.span)

structure Link where
  sign : Token
  operator : Operator
  tokens : List Token
  node : Node

def Link.all (link : Link) : List Token := link.sign :: link.tokens

/-- The operations of links one after the other, each on what all before it have made. -/
def chained (first : Node) (links : List Link) : Node :=
  links.foldl (fun left link => joined link.operator left link.node) first

/-- The tokens of a phrase and its tree. -/
inductive Derives : Phrase → List Token → Node → Prop
  | number {token : Token} :
      token.kind = .number →
        Derives .operand [token] (.number (Numeral.value token.value.toList) token.span)
  | symbol {token : Token} :
      token.kind = .symbol → Derives .operand [token] (.symbol token.value token.span)
  | group {opening closing : Token} {tokens : List Token} {inner : Node} :
      opening.kind = .leftParen → Derives .sum tokens inner → closing.kind = .rightParen →
        Derives .operand (opening :: tokens ++ [closing])
          (inner.withSpan (opening.span.hull closing.span))
  | trig {name opening closing : Token} {tokens : List Token} {argument : Node} (function : Trig) :
      name.kind = .function → name.value = function.word → opening.kind = .leftParen →
        Derives .sum tokens argument → closing.kind = .rightParen →
          Derives .operand (name :: opening :: tokens ++ [closing])
            (.trig function argument (name.span.hull closing.span))
  | power {name opening comma closing : Token} {tokens others : List Token} {base exponent : Node} :
      name.kind = .function → name.value = "pow" → opening.kind = .leftParen →
        Derives .sum tokens base → comma.kind = .comma → Derives .sum others exponent →
          closing.kind = .rightParen →
            Derives .operand (name :: opening :: tokens ++ comma :: others ++ [closing])
              (.power base exponent (name.span.hull closing.span))
  | root {name opening comma closing : Token} {tokens others : List Token}
      {degree radicand : Node} :
      name.kind = .function → name.value = "root" → opening.kind = .leftParen →
        Derives .sum tokens degree → comma.kind = .comma → Derives .sum others radicand →
          closing.kind = .rightParen →
            Derives .operand (name :: opening :: tokens ++ comma :: others ++ [closing])
              (.root degree radicand true (name.span.hull closing.span))
  | alone {tokens : List Token} {node : Node} :
      Derives .operand tokens node → Derives .row tokens node
  | beside {tokens others : List Token} {left right : Node} :
      Derives .operand tokens left → Derives .row others right →
        Derives .row (tokens ++ others) (joined .mul left right)
  | product {tokens : List Token} {first : Node} {links : List Link} :
      Derives .row tokens first →
        (∀ link ∈ links, (link.sign.kind, link.operator) ∈ productSigns) →
          (∀ link ∈ links, Derives .row link.tokens link.node) →
            Derives .product (tokens ++ links.flatMap Link.all) (chained first links)
  | sum {tokens : List Token} {first : Node} {links : List Link} :
      Derives .product tokens first →
        (∀ link ∈ links, (link.sign.kind, link.operator) ∈ sumSigns) →
          (∀ link ∈ links, Derives .product link.tokens link.node) →
            Derives .sum (tokens ++ links.flatMap Link.all) (chained first links)

def IsInteger (token : Token) : Prop := token.kind = .number ∧ '.' ∉ token.value.toList

inductive Integer : List Token → Int → Prop
  | positive {token : Token} :
      IsInteger token → Integer [token] (Numeral.whole token.value.toList)
  | negative {sign token : Token} :
      sign.kind = .minus → IsInteger token →
        Integer [sign, token] (-(Numeral.whole token.value.toList : Int))

inductive Arguments : DirectiveName → List Token → Directive → Prop
  | frame {first second third fourth : List Token} {comma comma' comma'' : Token}
      {x y width height : Int} :
      Integer first x → comma.kind = .comma → Integer second y → comma'.kind = .comma →
        Integer third width → comma''.kind = .comma → Integer fourth height →
          Arguments .frame (first ++ comma :: second ++ comma' :: third ++ comma'' :: fourth)
            (.frame x y width height)
  | resolution {first second : List Token} {comma : Token} {width height : Int} :
      Integer first width → comma.kind = .comma → Integer second height →
        Arguments .resolution (first ++ comma :: second) (.resolution width height)
  | output {token : Token} :
      token.kind = .string → Arguments .output [token] (.output token.value)
  | printNow : Arguments .printNow [] .printNow

inductive Statement : List Token → Node → Prop
  | directive {hash name opening closing : Token} {known : DirectiveName} {tokens : List Token}
      {command : Directive} :
      hash.kind = .hash → name.kind = .directive → name.value = known.word →
        opening.kind = .leftParen → Arguments known tokens command → closing.kind = .rightParen →
          Statement (hash :: name :: opening :: tokens ++ [closing])
            (.directive command (hash.span.hull closing.span))
  | equation {tokens others : List Token} {sign : Token} {left right : Node} :
      Derives .sum tokens left → sign.kind = .equals → Derives .sum others right →
        Statement (tokens ++ sign :: others)
          (.equals left right (Span.hull? left.span right.span))
  | term {tokens : List Token} {node : Node} :
      Derives .sum tokens node →
        Statement tokens (.equals (.symbol "y" node.span) node node.span)

/-- Lines, empty or with one statement, up to the end of the script. -/
inductive Program : List Token → List Node → Prop
  | stop {token : Token} : token.kind = .endOfText → Program [token] []
  | empty {token : Token} {rest : List Token} {nodes : List Node} :
      token.kind = .endOfLine → Program rest nodes → Program (token :: rest) nodes
  | line {tokens rest : List Token} {token : Token} {node : Node} {nodes : List Node} :
      Statement tokens node → token.kind = .endOfLine → Program rest nodes →
        Program (tokens ++ token :: rest) (node :: nodes)

/-- Tokens as a scan makes them: one end of the script, at the end, and numerals of digits. -/
inductive Scanned : List Token → Prop
  | stop {token : Token} : token.kind = .endOfText → Scanned [token]
  | more {token : Token} {rest : List Token} :
      token.kind ≠ .endOfText →
        (token.kind = .number → Lexis.IsDecimal token.value.toList) → Scanned rest →
          Scanned (token :: rest)

/-- An integer on the same line as a hash before it. -/
def InDirective (tokens : List Token) (token : Token) : Prop :=
  IsInteger token ∧ ∃ before hash between after,
    tokens = before ++ hash :: between ++ token :: after ∧ hash.kind = .hash ∧
      ∀ other ∈ between, other.kind ≠ .endOfLine

end PlotScript.Grammar
