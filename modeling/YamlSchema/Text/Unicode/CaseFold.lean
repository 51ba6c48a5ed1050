import YamlSchema.Text.Unicode.Ranges

/-!
# Letters in either case

The simple folding of case: a character stands for another one, and two characters are the same but for their case if
they stand for the same one.
-/

namespace YamlSchema.Text.Unicode.CaseFold

private def data : String :=
  String.join
    ["Y1Q1Y0YR11XmEBN1Y0271Y0X2O22432238223N22211dH1322211mN211j41222211iS1112221iQ1112311aU111iK111iM1112211i",
     "Q111iU211j6111j21112411j6111jA211jC1322211jK1112211jK3112211jK1112221jI1222211jM111241128114111221141112",
     "21141922392231141222211c1111ZF1K22211e32922811rYM1112211g5111rYG3112211i5111aA111aE1522dN11d8XB222411291",
     "1d8711YC231YA211a0221ZU2H1Y0291Y0N112D11G111XR111XH411T111XB2C22211ZB111YV311ZN111ZV2112211D1112331e31G1",
     "b01X01Y0XHH22AR22211U17223XG223X61Z0YwAX61kc0211kc0611kc0vB61FYa311iaR111iaP111ia7121ia3111ia5111iZN111i",
     "Y7111Yay611127XB1bxV331bxVg1YB22711ZJ311kxT2XG22A81F961FB81F981F961FC42F981FP81F981F981F921F121aJ111H211",
     "kW9A41bB111H711ka5521F121c7811kZ5521F121cV111DC21dV121dR111HfA11krP411mhT111maB711XOXEG1X0K112vJQ1XKXvHX",
     "G1Z0XH112211q-D111dkB111q+D3322211rXN111q-P111rXT111rXR21123112921rZT1XI2292225112+gEN22KE22a87224V22B22",
     "2211YbW715225112211YooF32224A22211Yoq7111YoqT111YoqL111Yoq1111Yoq7211Yon3111YooJ111Yon9111Xw01822211YV11",
     "1Yoq5111YbZF1222211YosD111241126322211Ypa1P112xRYG1YhyVpw6112XWSQ1Y0Xc6X81YGa9X41YGaTB1YE2F1YE271YE221YE",
     "XtBXJ1a0aUM1Y0YvRX01Y0ri1X01Y0+r1X21Y4"]

private def pairsFrom (fuel previous : Nat) (ns : List Nat) : List (Nat × Nat) :=
  match fuel, ns with
  | fuel + 1, gap :: count :: step :: shift :: rest =>
    let first := previous + gap
    let here := (List.range count).map fun i => (first + i * step, (Int.ofNat (first + i * step) + signed shift).toNat)
    here ++ pairsFrom fuel (first + (count - 1) * step) rest
  | _, _ => []

/-- The characters that stand for others, with the characters that they stand for. -/
def pairs : List (Nat × Nat) :=
  let ns := numbers data
  pairsFrom ns.length 0 ns

/-- The character that a character stands for. -/
def fold (c : Char) : Char :=
  match pairs.find? fun p => p.1 = c.toNat with
  | some p => Char.ofNat p.2
  | none => c

/-- The characters that are the same as one of a set but for their case. -/
def closure (r : Ranges) : Ranges :=
  let folded := (pairs.filter fun p => r.has p.1).map fun p => (p.2, p.2)
  let targets := if folded.isEmpty then r else Ranges.union r folded
  let sources := (pairs.filter fun p => targets.has p.2).map fun p => (p.1, p.1)
  if sources.isEmpty then targets else Ranges.union targets sources

end YamlSchema.Text.Unicode.CaseFold
