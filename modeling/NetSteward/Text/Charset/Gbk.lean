import NetSteward.Text.Charset.Grid
/-!
# GBK

Signs and ideographs that were added to GB 2312.
-/

namespace NetSteward

namespace Grid

/-- The rows of these characters from 161 on. -/
def gbkSignsFrom161 : List String := [
  "....................................................." ++
    "..............................................·.....—",
  "....................................................." ++
    "...........................................ⅰⅱⅲⅳⅴⅵⅶⅷⅸⅹ"]

/-- The rows of these characters from 166 on. -/
def gbkSignsFrom166 : List String := [
  "............................................................." ++
    "............................................................." ++
    ".....................................︵︶︹︺︿﹀︽︾﹁﹂﹃﹄..︻︼︷︸︱.︳︴",
  "",
  "ˊˋ˙–―‥‵℅℉↖↗↘↙∕∟∣≒≦≧⊿═║╒╓╔╕╖╗╘╙╚╛╜╝╞╟╠╡╢╣╤╥╦╧╨╩╪╫╬╭╮╯╰╱╲╳▁▂▃▄▅▆▇█" ++
    "▉▊▋▌▍▎▏▓▔▕▼▽◢◣◤◥☉⊕〒〝〞.....................................ɑ.ńň.ɡ",
  "〡〢〣〤〥〦〧〨〩㊣㎎㎏㎜㎝㎞㎡㏄㏎㏑㏒㏕︰￢￤.℡㈱.‐...ー゛゜ヽヾ〆ゝゞ﹉﹊﹋﹌﹍﹎﹏﹐﹑﹒﹔﹕﹖﹗﹙﹚﹛﹜﹝﹞﹟﹠﹡﹢﹣﹤﹥﹦﹨﹩﹪﹫.............〇"]

/-- The rows of these characters from 253 on. -/
def gbkSignsFrom253 : List String := [
  "................................................" ++
    "...........................................郎凉秊裏隣",
  "兀嗀﨎﨏﨑﨓﨔礼﨟蘒﨡﨣﨤﨧﨨﨩"]

/-- The characters of GBK that are not in GB 2312, but for the ideographs
in order, and those that are other than there. A row has the cells of one
first byte. -/
def gbkSigns : Grid :=
  ⟨[(161, gbkSignsFrom161), (166, gbkSignsFrom166), (253, gbkSignsFrom253)]⟩

end Grid

end NetSteward
