import YamlSchema.Text.Unicode.Ranges

/-!
# Composed characters

A character with marks is written as one character or as several.  `normalize` gives the composed form of a text: it is
taken apart as far as possible, the marks are put in the order of their classes, and it is put together again.
-/

namespace YamlSchema.Text.Unicode.Composition

private def partData : String :=
  String.join
    ["o1dTu04dVu14e1u24e3u34e5u84e7uA7e7v74e5u04e7u14e9u24eBu84e5u04e7u14e9u24eBu87e5u34e5u04e7u14e9u24eBu34eD",
     "u8Ae7u04e9u14eBu24eDu84e7u1AdTu04dVu14e1u24e3u34e5u84e7uA7e7v74e5u04e7u14e9u24eBu84e5u04e7u14e9u24eBu87e",
     "5u34e5u04e7u14e9u24eBu34eDu8Ae7u04e9u14eBu24eDu84e7u17eBu84hTu44fVu44i1u64g3u64i5v84g7v84i5u14g7u14i9u24",
     "gBu24iDu74gFu74iHuC4gJuC4iJuC4gLuCAiPu44gRu44iTu64gVu64j1u74h3u74j5v84h7v84j9uC4hBuC4j9u24hBu24jDu64hFu6",
     "4jHu74hJu74jLv74hNv74jNu24hPu2AjTu34hVu34k1u44i3u44k5u64i7u64k9v84iBv84kDu7DkJu24iLu24kLv74iNv77kPu14iRu",
     "14kTv74iVv74l1uC4j3uCGl9u14jBu14lDv74jFv74lHuC4jJuCDlPu44jRu44lTu64jVu64m1uB4k3uBAm3u14k5u14m7v74k9v74mB",
     "uC4kDuC4mDu14kFu14mHu24kJu24mLv74kNv74mPuC4kRuC4mRv74kTv74mVuC4l1uCAn5u34l7u34n9u44lBu44nDu64lFu64nHuA4l",
     "JuA4nLuB4lNuB4nPv84lRv84nPu24lRu24nPu24lRu24nTu84nTu14lVu14o1u74m3u74o5uC4m7uCZ7r1uR4p3uRXBrJuR4pLuRYOuN",
     "uC4sPuC4uBuC4sDuC4u3uC4s5uC4tRuC4rTuC4lHu44jJu44lLu14jNu14lPuC4jRuC4lTu04jVu07nJu44lLu44aCu44aCu44nNu44l",
     "Pu4AvTuC4tVuC4vPuC4tRuC4vLv84tNv843u443u44ZDuC4g6uC4uBuCDwPu14uRu1AwJu04uLu04p9u14nBu14pBu14nDu14oBu14mD",
     "u14xTuF4vVuF4y1uH4w3uH4xTuF4vVuF4y1uH4w3uH4xTuF4vVuF4y1uH4w3uH4xPuF4vRuF4xTuH4vVuH4xRuF4vTuF4xVuH4w1uH4x",
     "TuF4vVuF4y1uH4w3uH4y9v64wBv64yBv64wDv6AzBuC4xDuCM+9u74yBu74+5v74y7v74r7u44p9u44rDu44pFu44zTu74xVu743u443",
     "u44zHu44xJu4v7ZV3ZV6YV5ZNu1aGhLUXq5MXjPu14Mu13XiV4Qu14Su14Uu17X6u17XEu14XKu14ZKu1YFX1u84Bu84Au14Gu14Iu14",
     "Ku14XMu1YFX1u84Bu84Pu14Fu149u1G1u143u8a5XAu04X8u87X0u1D1u8GSu14Mu04XAu6X21u6Z11u6Y6XLu04XNu87XVu1D1u8GY3",
     "u14Y9u04XLu6Y93uF43uFcVgLu64eNu6XBhVu64g1u64i3u84g5u8Ai1u64g3u6A3u843u84iBu84gDu84iDu84gFu8AiJu44gLu44iN",
     "u84gPu84iFu84gHu8A3u843u84hTu84fVu84iLu44gNu44iPu84gRu84iTuB4gVuB4iPu84gRu8AiPu84gRu8xSAXoJ48XoK4Y8XoK44",
     "XoL4Y8XoKkFXAXoK71XoKXK1XoKXu31YfSP1YfSA1YfSZEa5YfS5a5YfS5a5YfS5ZTYfS5ZLYfS5ZLYfS5Z5YfS5YVYfSg57YjU49YkN",
     "XIZLYjS5ZLYjS8YVYjSdU1YnSB4YnSZBa5YnS5a5YnS5ZTYnSBZ5YnSrV1YwMA7YvU49YwNXIZLYvS5ZLYvSb63Y+Nb37YzU47YzU4BY",
     "+NhL3ZYMh91ZcLM1ZcL43ZcM77Zc241ZcLhU7ZfU47ZfU4BZgNjB1ZkA75ZkF41ZkA49ZkVXXH1ZzNX01ZzNH1ZzNH1ZzNH1ZzNX9YHZ",
     "zLX03ZxI87ZxK5ZOZy08ZMZy0TVZy0XO1ZzNX01ZzNH1ZzNH1ZzNH1ZzNX9YHZzLg81aXEeb11cvL71cvL71cvL71cvL71cvLD1cvLZS",
     "1cvL71cvLA3cvL43cvL71cvLYXOkxTv54kvVv54kxVu74kw1u74ky3v34kw5v34ky7vH4kw9vH4kq1u14ko3u14kyBu74kwDu74kyFv3",
     "4kwHv34kyJvH4kwLvH4kyNv74kwPv74kyRvD4kwTvD4km3u04km3u04km7u14km7u14kz5vD4kx7vD4kz9vG4kxBvG4j-7u64j-7u64k",
     "zFu74kxHu74kzHu44kxJu44kzJu74kxLu74kzNv34kxPv34kzRu84kxTu84kzVv74ky1v74k+3vE4ky5vE4k+5vG4ky7vG4krTu14kpV",
     "u14k+9u14kyBu14k+Dv34kyFv34k+HvH4kyJvH4k+Jv34kyLv343u443u44k+RvH4kyTvH4k+VvD4kz1vD4k-1u14kz3u14k-5u74kz7",
     "u74k-9v34kzBv34k-Bu74kzDu74k-Fv34kzHv34k-JvH4kzLvH4k-NvD4kzPvD4ktDu14krFu14ktHu84krJu84km7u04km7u04kmBu1",
     "4kmBu14lW7u14k+9u14lWBu74k+Du74lWBu74k+Du74lWFv34k+Hv343u443u44lWNvH4k+PvH4lWPu74k+Ru74lWTv34k+Vv34kmJu7",
     "4kmJu74kmBu74kmBu74Bu74Bu74lXBu74k-Du74lXFv34k-Hv34lXJvH4k-LvH4lXNvD4k-PvD4lXPv44k-Rv44lXTvG4k-VvG4lY1vD",
     "4lW3vD4kmVu14kmVu14kmVu84kmVu84lYBu34lWDu34lYFv34lWHv34lYHu04lWJu04lYLu14lWNu14lYPu84lWRu84lYTu74lWVu74l",
     "Z1v34lX3v34lZ3u74lX5u74lZ7u84lX9u84lZ9u74lXBu74lZBu24lXDu24lZFv34lXHv34lZJvH4lXLvH4lYRvH4lY5u84lY1uA4lXV",
     "uA7knNu7GlbTv34lZVv34lc1u94la3u94k+3u14ky5u14k+7u04ky9u04k+Bu94kyDu94k+Fu34kyHu34Nu24Nu24kwNu14kwNu14kwR",
     "u04kwRu04kwVu94kwVu94kx3u34kx3u34XBu64XBu64ld5v34lb7v34ld9u94lbBu94ldDu34lbFu34k-7u14kz9u14k-Bu04kzDu04k",
     "-Fu94kzHu94k-Ju34kzLu34Ru24Ru24ldTu94lbVu94le1v34lc3v34ldPv34lbRv34ldTu94lbVu94k-Nu14kzPu14k-Ru04kzTu04k",
     "-Vu94k+1u94lW3u34k+5u34Nu24Nu24kpJu14kpJu14kpNu04kpNu04kpRu94kpRu94kpVu34kpVu34kq3v34kq3v34leTv34lcVv34l",
     "f1u94ld3u94kpHu14kpHu14kpLu04kpLu04kpPu94kpPu94kpTu34kpTu34kq1v34kq1v34lfHu04ldJu04lfLv34ldNv34lfPu94ldR",
     "u94lfTu34ldVu3MjqTuJ4jqVuK43u043u047u147u14Bw24Bw24jtDuJ4jtFuK43u043u047u147u14Bw24Bw24jrLuJ4jrNuK43u043",
     "u047u147u1Aju5uJ4ju7uK43u043u047u147u1AjsHuJ4jsJuK43u043u047u147u14Bw24Bw24jv1uJ4jv3uK43u043u047u147u14B",
     "w24Bw24jtDuJ4jtFuK43u043u047u147u14Bw24Bw24jvTuJ4jvVuK43u043u047u147u14Bw24Bw24ju1uJ4ju3uK43u043u047u147",
     "u1AjwHuJ4jwJuK43u043u047u147u1AjuLuJ4juNuK43u043u047u147u14Bw24Bw27jx7uK73u077u17Bw24jvDuJ4jvFuK43u043u0",
     "47u147u14Bw24Bw24jxTuJ4jxVuK43u043u047u147u14Bw24Bw24jxTu03jy94jxPu03jyB4jxPu03jyD4jxPu03jyF4jxHu03jwP4j",
     "x9u03jwR4jx5u03jwTAdVw54dVw54dVw54dVw54dVw54dVw54dVw54dVw54dVw54dVw54dVw54dVw54dVw54dVw54dVw54dVw54cVw54",
     "cVw54cVw54cVw54cVw54cVw54cVw54cVw54cVw54cVw54cVw54cVw54cVw54cVw54cVw54cVw54ZVw54ZVw54ZVw54ZVw54ZVw54ZVw5",
     "4ZVw54ZVw54ZVw54ZVw54ZVw54ZVw54ZVw54ZVw54ZVw54ZVw54j-Tu64j-Vu44a3w54kW3w54kWFw57kW9w241w54kYDu64kYFu44kY",
     "Hu03kZ94kYLw56kW9AlnHw24aRw54kWNw54kXBw57kWTw241w54kZ5u03ka14kZ5u03ka34kZ9w54Ru04Tu14Vw24kXDu64kXFu44kWF",
     "u03ka5AkXPw24kWPw24kZTu64kZVu44ka1u03kb17Y2u04Y0u14XUw24kXLu64kXNu44kXDu03kZ54kY5uJ4kY7uK4kY1w24kXNw24ka",
     "5u64ka7u44ka9u03kbP4kaLuK4lq9u03kcH3luTAdBw54kYJw54kYBw57kYPw241w54kbHu03kcP4kb1u03kcN4kb5w53lqH9434xFkt",
     "PCmjT3mcBgEJvO4HvOXQXJvOYU6vO4CvO46vOb01vOG1vOA1vOY91vO71vOYI9vOA1vOA3vO71vOY6nY5vO71vOX2XVvO4nZ3vO4nZ1v",
     "O4NvO4NvOA3vO43vOA3vO43vOMBvO4BvOA3vO43vOA3vO43vOZAJvO49vO49vO47vOaKc7vO4c7vO4b1vO4b1vOMZFvO4ZFvO4ZFvO4Z",
     "FvObKcjU3cjUbuO2vOaYH1iaP71iaP71iaP71iaP71iaP71iaP71iaP71iaP71iaP71iaP71iaP71iaPA1iaP71iaP71iaPM1iaP43ia",
     "Q71iaP43iaQ71iaP43iaQ71iaP43iaQ71iaP43iaQY6aRiaPV1iaPXB1iaP71iaP71iaP71iaP71iaP71iaP71iaP71iaP71iaP71iaP",
     "71iaP71iaPA1iaP71iaP71iaPM1iaP43iaQ71iaP43iaQ71iaP43iaQ71iaP43iaQ71iaP43iaQY6aRiaPAFiaP4FiaP4FiaP4FiaPD1",
     "iaPasW6XshF3YfWP3XrZF3XsZL3YbZ53Yrj53Yoo13XisL3XisN3YlxF3XppH3Ynu73Yly73YhnD3YXg93XyuJ3Xvj13XurD3XuXJ3Xq",
     "e73Ydn33Yb-J3YaZP3YYpH3XwjL3XpwT3XloH3YrfH3YowD3YdXH3YZm53Xvl33Xjm33Yjz13YapD3XvrB3XtxV3YhbN3XxqR3XumF3Y",
     "jbR3YfX33YbxV3YZYT3XqbR3YqwD3YptD3Ypb13YgcN3YdbR3YZo33YXaN3Xyp53XvoT3XvjJ3XrqF3XnWB3XkyJ3XjpV3YWgT3X-xP3",
     "XzvP3Xwt93XpZL3Xji13XtcL3Ymc53YjZT3X+k73XyiD3YZk73YWdP3XseB3Xnb33Ymd33YkkH3YdpH3Ybt53YbZT3X+XV3XznH3XnmB",
     "3YpdV3XyiF3YptF3YpuH3X-pJ3XzvH3XwsD3Xnk73XszJ3YheN3YdrJ3XtbT3Yro93YktF3YiqR3YYzJ3YX-33YpaN3YWcH3YqwB3Yix",
     "P3YrrJ3YcfN3Yf-13X+aF3YowF3YmmR3YXcN3Xwo93Xti93YcxB3Xqy13YckJ3Yhd93XxeT3Ygz93YYX13YriH3YqWT3YpwV3YelH3X+",
     "f73XxmP3XtgL3XpwT3YpeJ3YopR3YmWR3YjfB3YfxR3YauB3YWbL3XnzH3XlnP3Xjl13XjhL3YpkT3Yfi93YdX93XrYL3YjnJ3Yh-T3Y",
     "huV3YglD3YbcT3YaaJ3YYmL3X-yL3Xzw33XyoF3Xrd33XwgL3XqtD3Xpb13Ypu93YplJ3Yok13YajD3XujR3XtlD3YjjH3YiwR3YhYH3",
     "Yc-D3X+sF3YZZ33Yri73YngV3Yky53Yj-13YiuV3YY-L3YYq93XzX93XysJ3XptP3XnhN3XncL3XmvN3YrYJ3YWWF3XqW53XnlV3YijF",
     "3Yrp73Yqk13YkyR3YktR3YgY93YdxP3YZ-33YXtT3XwiB3XqqD3XjZD3YfpP3XnvF3YppR3YfaP3YezB3YceH3YboT3YYy53YYd73YWs",
     "53X+hT3Xmt33Yqc73Yhw73XnrL3YqwH3YkhN3Yb+N3XrgP3YjaP3Yif93Yey53YZb73XnrB3Ypx73YoyT3YktJ3YfyP3Yff53YepJ3Yc",
     "lR3YYzR3YYW53XzcP3XunF3XumD3XqXP3XnmF3YpgN3Ybp33YoyV3YaXR3YYrD3Xv-B3XnqR3XkvL3Xjr73YfbP3YcYJ3XyWR3X-oN3X",
     "-jF3X+sD3YZpJ3Yas33Xtg73YrpP3XxiF3Ypy93Yp-H3YjrL3YhoT3X+oP3YldT3YckD3Yfr33XriN3XuxN3XnxN3XudT3YjpF3YqiN3",
     "YoaP9YmxB6YfvR9YqZD3YZkN3YXqP3YWjN3YWhL3YWh93YWeN3XniB3X+rT3Xzc16XwWR6XtoJ9Xq+P3XqoHCXmpL3XmoT3Xmm73XkdH",
     "3XqqV3XntF3Yre33YqqJ3Yqk93YpsJ3YpqV3Ypk73YofH3YoZ13YnyV3Ym-H3Ymv33YkzD3YkyR3YiwH3YijB3Yih13YiaR3Ygl33Ygb",
     "V3Yfx33YexT3YciR3YcYN3Ybo93YajJ3YaXR3YZYF3YWxJ3YWmR3YWm73YWmB3YWlT3YWlJ3YWl73YWi93YWi93YWX73X-z73X-fB3X+",
     "c53X+aT3X+XF3XzkF3XzbB3XycT3Xx+73Xx+93XxWF3XuqV3XuiL3Xts13XtoJ3Xsv13XsrP3XrgV3XrYT3Xnu93XncJ3XnYT3Yi-B3b",
     "ae43Xyb99YsaJ3YqhN3YqmJ3Yrl53YqoT3Yql93YpwT3YptP3YojL3Yoo73Yok13YofH3YnY33YmyJ3YmpJ3YmoL3YmXR3YlrH3YjwV3",
     "YjwJ3YjnL3YjjF3YiwR3YipH3YitV3YilL3YioJ3YifH3YibF3YhiH3Yhd33YhZP3YgpJ3YgXP3YftL3YftF3YfpR3YdnN3YdjN3YcrB",
     "3YbxP3YbyR3YbtF3YbdP3YaoR3YXlB3YacH3YZ+V3YZtB3YZYV3YYvN3YYsF3YYeD3YYeB3YXzN3YXyN3YXx73YXrT3YXsJ3YWzT3X--",
     "L3X-kP3X-Z53X+r73X+hN3Xzt53XzgP3Xxs13Xxi93XvpN3Xut93Xup13Xuo33Xt-J3Xty33Xt+V3XtxL3XtxT3Xtz13XtuB3XtpB3Xs",
     "xH3XruJ3Xrb13XqoL3XqaT3XoaJ3Xn+73Xnt33XnkR3XniL3XnhV3Xnf13XlxL3Xjp33astM3ast83aym83Y-p93YzhL3YzfL3bht83b",
     "m-K3cX-O3Xjv93XjqLcEZwq7XjK8ZwoPXjNX3Zwq1Xk15Zwq3Xk25XQXk15XOXk25ZwrRXjN5ZwrTXjO5ZwrVXjS5ZwrVXjS5ZwrVXjS",
     "5ZwrVXjS5ZwrVXjS5ZwrVXjS5ZwrVXjS8ZwrVXjS5ZwrVXjS5ZwrVXjS5ZwrVXjS5ZwrVXjS8ZwrVXjS8ZwrVXjS5ZwrVXjS8ZwrVXjS",
     "5ZwrVXjS8ZwrVXjS5ZwrVXjS5ZwrVXjS5ZwrVXjS5ZwrVXjS5ZwtBXjP5ZwtLXjV5Zwt3XjV5ZwsJXjVdxIIu7YIJu7eX31YabQ71Yab",
     "QXEBYabQiA6Yaf746Yaf7XoL7YavU49YawNb61Ya+971YazRS5Ya+2A1Ya+9aT5Ya+279YazO4BYa+9sQ3YbbQ45YbbG79YbbTtL3Ybj",
     "F43YbjFYpO5YcfGXrzS5YueU47Yuf949YueV4AYueV4DYuf049YueV49YueV4DYuf0fc11Yxh74BYxh741Yxh7Yg+UDZqh55DZqh551Z",
     "qhE53ZqhF55ZqhG57ZqhH59ZqhIe73Zqh553Zqh553ZqhE53ZqhE57ZqhF57ZqhFcys0gqy53gqyH3gqy13Zxk13gqg73gqbD3gqaL3g",
     "qW93gpuR3gpsV3gpo53gppN3hXsR3Zuz53gpi13gphL3gpgN3gpfJ3ZvlB3hXrJ3gpgP3gpeF3ZviL3gpdV3gpd73gqqP3gpcR3gpcB3",
     "XpZP3gpYF3gpXL3hXpV3go+93gozL3gowV3gowN3hXmT3gorR3gorP3goq53gooR3goo73goo73gon73gok53gojN3goj73gohN3goh5",
     "3goh33goh53goh73ZtWF3gZy93gocN3gobF3Zsj93goaR3goaH3goZ93gnvR3goW93gn-B3gnzD3gnvR3gnqL3gnp33gnkV3gnk13gni",
     "13gni33gngR3gnfP3gnfB3gneF3gmp93gnaB3gmpB3gm-P3gmzL3gpaH3gls53gme73gmbT3gmaD3gmiJ3gmY73gmYB3glwN3Znt93gl",
     "sF3gls73glrB3glq53glpN3gllP3ZmxF3ZmtD3gldB3glaF3glZP3gleP3gk-V3hWtH3hWsN3gks13gkoN3gkoP3Zlg73gkgJ3gkfB3g",
     "keF3gkdP3ZkrH3gkd53gkcP3gio13gkb53hWl93gkXD3gkWJ3gjxH3gj+P3ZjfD3gjpH3ZjfD3gjmV3gjn73gjm73gjfV3gjfV3hWb73",
     "gjeD3gjbP3gjaH3gjXR3hWYB3ZhmB3hWWR3gizL3gizH3gizD3giy73XglP3giv33ZgrV3Zgs13fxf33git33git53g-yT3ZYzT3YhhR",
     "3gipD3gioT3g-xF3gim33giiV3giiD3gigB3giXT3g-sD3g-uB3giWT3ZeyV3ghzR3ghrR3ghrL3ghrJ3ghrP3ghoV3ghnP3ghlJ3ghm",
     "H3ghlT3ghj13ghhR3ghhL3ghg33ghfF3ghbD3ghW73gg+33ggsD3ZcwN3ggtN3ggxR3ggr53ggpH3ggjH3ZciP3ggfP3gglL3ggnF3g-",
     "f73ggbJ3ggaB3ggYF3ggaT3g-bL3gftH3gfrP3ZahV3gfkF3gez73gfe73g+x93gfZR3g+yF3g++P3gppV3gppR3gez73gfZH3fyYH3g",
     "wlR3gey13gexR3gexH3getP3geuH3ZYnJ3g+v93gek93gerL3geeT3gebP3ZYdB3gebB3geiB3gdz33g+qJ3gdwB3gdqB3gdlV3gda53",
     "ZXaH3gdX33g+jB3gcyR3ZWaH3gcvP3g+g73gcu13gcr93gcpL3gcpL3Y-cJ3Zj+P3Y+-T3gcgN3Y+ZT3gcZP3gcYV3gcfD3gb+H3gby3",
     "3gbuJ3gby13gbvJ3gbuN3gbtV3Yz+F3gbz53gbjH3gbfL3gzzD3gbZV3gba93YzZN3gbn93gaw13Yyx33Yyu53gaqN3gajJ3galB3gal",
     "J3gztV3gaiP3gafL3gag33gacP3Zv-B3gZzD3YxhJ3gZu33Ywt73gZlF3gZkN3gZj33YvnL3gZg73gZeV3Yu-13Yun53gYwR3gYvR3gz",
     "dR3gYuB3gzd73gzd93gYkD3gYj53gYhT3gYgN3gYcF3gzXF3gYWV3YslT3gX-F3Ysg93gXyF3ZhvJ3gXoJ3YqvJ3Yqu73YqlH3gyq33g",
     "ypD3gXaN3YqaR3YqaV3YqYJ3YqX13gXYD3gXYD3gXYF3gW-R3gymV3gWxT3gym93gyhB3YooV3gWlV3gWi53gWe73gycR3YnoN3f--P3",
     "YnhJ3YneV3f-yD3f-sN3gyYH3f-nH3f-mV3f-mN3YlzV3YlhB3YlhD3f-d13gxrR3YkxB3f+vN3f+vJ3gxpP3Ykk93f+f73gxiD3f+dV",
     "3f+eB3f+cJ3Yi+93f+WH3gxcN3fzwD3fzsP3fzoL3gxZP3YhqJ3YhoN3gxXL3YhfN3fy-N3YhZH3fy+53fytT3fyt93Ygg13YgbH3fyn",
     "P3YfzB3fymT3ZZY13gwwN3fyiV3fydV3gwtH3fyaD3glj13YezV3Yez53ZY-B3ZY+R3fxuJ3fxuF3fq+T3gwo53fxlR3fxm93fxl73gp",
     "jT3fxk33fxk13fxjF3fxgV3YdbL3fxh53fxdN3fxZD3fw+R3fxdH3fwzV3fwxD3fwqF3fxaP3fwzD3fwzB3fwyD3YcsR3YcZJ3Ycj13g",
     "wdN3fwhD3fwhB3fwf73YY+13fwaF3Ybe13gwb13gwaR3Ya-T3YajT3gwaD3fvs53fvrF3fvqR3fvqP3fvmR3fvoV3fvgL3fvjF3fva33",
     "fvf73fvb33fvZF3gv+F3fuzT3fuxV3gvyH3fus53fus13YXrR3fukT3fukH3gvv53fuiT3hYmT3YWnP3YWcB3gvmT3gvmD3ftoT3ftk5",
     "3ftaD3fstP3X+oL3fsoH3fsn73fshL3fsbV3XzgH3Zuz93fsWT3fsXT3fr+N3ZulT3frmJ3frgD3XwWR3Xv-73fqqR3fql33fqj53Xvh",
     "D3fqiL3fpwT3fpn13fpn13fpsR3fo-33fozD3Xs-53foc53gubJ3foZH3XsdJ3guWN3fnoV3gka33fnj33Xqh13XpzP3gtuJ3gtu53fn",
     "XJ3Xo-13gtqJ3XosD3fm-53fm-73fmzD3XoaL3fmnV3gtiV3fmjL3fmbR3fma73fmWH3gtZJ3XljH3fllF3fkyL3fkmT3gspT3gso13f",
     "kgF3Xiq33gsnH3XimP3XiW93Xhu53fjrJ3gshV3fjnR3fjnJ3fjn73fjmL3fjm93fjk13XgXP"]

private def classData : String :=
  String.join
    ["0tVd6Kd80cS3d80cO0cS4cA1cS3cA1cSA14cS3d67dG0d60cS2d62cS100d62cS3d60d80cS1d60d90dA1d90dA1d90d6C0eId640e8c",
     "S0d63cS0d62cU0cS0d65cS5d61cS0d61cU0d40d60A0B0C0D0E0F0G0H0I0J1K0L0M000N000O0P000d60cS000I00Y7d67U0V0X000X",
     "FR0S0T0U0V0X00X10X20d61cS1d64cS0d61cS00FX300Z4d6601d63cS0d6001d6100cS0d61cS00X2X400Td60cS0d61cS0d61cS2d6",
     "0cS1d60cS0d62cS0d60cS0d60cS0d60cS0d610aVd66cS0d6008cS00Nd6300d6800d6200d640XAcS20XQd61cS2d630X9d64cS4d6D",
     "00cS0d61cS0d61cS0d62cS2R0S0T0d62cS0d61cS1d640XR700F9002d60cS0d610Z6700F900XFd600XS700F900ZD700F900ZD700F",
     "900ZU900ZD700F9006YK0YR00Z4700F900ZC910F900ZR900ZCZ71900CZB30ZBZM1900CZQ30YBcS10QcS000cS000cO00XMa10a200",
     "0a4004a2301a2000d619000d610XTcS00ZF7000910YHcS00sEd620zJ910T900aS9009d600cAd400aEcU0d60cS00cQd60cS00Y690",
     "0Jd6701cS00XFd64cS5d61cS000cS1d61cS1d64cS0d630Z4700E900X5d60cS0d660XL910XP700A910Y2700aNd620010cS4d61cS3",
     "d60001603cS005d6002d610c5d61cS0d66cS0d61dA0cM0cS0cA0d6X4d80d41cS0cQ0d60d90cS0d60cS00sFd6111d6312d6103d60",
     "0211d60cS0d6011cS3d600Y-Td620aC900YVd6V0n9cQ0d40d80cU0d010Z8810zkJd6003d690Vd610YFd610eJ900X4900aM900Qd6",
     "H0XOcS20X4900YU700B900dEd6000d61cS001d6104d6100d600XJ900dL900pvFQ00u0d66cS6d610+CcS00d1cS00aKd640XqHcS00",
     "0d600X7d6010cS003900b4d60cS00nSd630Y0d640fSd610YFcS20Y5cS1d62cS0d60cS30XGd60cS0d60cS00bV900X8900D900XO90",
     "700Y4d620XF910XT700YB9008700Z990700bH70900YF710F900Nd6602d640YO920Fd610YU9002700Md600Z290700dQ90700ZT900",
     "ZL90700ZI900eC90700e19103700aR900YI900H900YG900j4900e17000910YG900j8910mlB900YjV140XQd660XbO610pbB100bc5",
     "cO11202d20cO407cS701d64cS10Td630aJd620ZjQd6600d6G01d6600d6100d640Z3d600aVd660hMd600XSd630lRd81cS0d600dTd",
     "60cS00sVcS60ZCd65700+brK"]

/-- A character that is written as one other or as two; only if `joins` are the two put together again. -/
structure Parts where
  whole : Nat
  first : Nat
  second : Option Nat
  joins : Bool

private def partsFrom (fuel previous : Nat) (ns : List Nat) : List Parts :=
  match fuel, ns with
  | fuel + 1, head :: shift :: rest =>
    let whole := previous + head / 3
    let first := (Int.ofNat whole + signed shift).toNat
    match head % 3, rest with
    | 0, rest => ⟨whole, first, none, false⟩ :: partsFrom fuel whole rest
    | kind, second :: rest => ⟨whole, first, some second, kind = 1⟩ :: partsFrom fuel whole rest
    | _, [] => []
  | _, _ => []

/-- The characters that are taken apart, syllables of Hangul aside. -/
def parts : List Parts :=
  let ns := numbers partData
  partsFrom ns.length 0 ns

private def classRuns : List Run := decodeRuns classData

/-- The class of a mark, by which marks behind one character are ordered; zero for what is no such mark. -/
def markClass (n : Nat) : Nat := valueIn classRuns n

/-! ### Syllables of Hangul -/

private def firstSyllable : Nat := 0xAC00
private def firstLead : Nat := 0x1100
private def firstVowel : Nat := 0x1161
private def beforeTail : Nat := 0x11A7
private def vowelCount : Nat := 21
private def tailCount : Nat := 28
private def leadCount : Nat := 19
private def syllableCount : Nat := leadCount * vowelCount * tailCount

private def syllableParts? (n : Nat) : Option (List Nat) :=
  let i := n - firstSyllable
  if n < firstSyllable ∨ syllableCount ≤ i then none
  else
    let lead := firstLead + i / (vowelCount * tailCount)
    let vowel := firstVowel + i % (vowelCount * tailCount) / tailCount
    some (if i % tailCount = 0 then [lead, vowel] else [lead, vowel, beforeTail + i % tailCount])

private def syllable? (a b : Nat) : Option Nat :=
  if firstLead ≤ a ∧ a < firstLead + leadCount ∧ firstVowel ≤ b ∧ b < firstVowel + vowelCount then
    some (firstSyllable + ((a - firstLead) * vowelCount + (b - firstVowel)) * tailCount)
  else if firstSyllable ≤ a ∧ a < firstSyllable + syllableCount ∧ (a - firstSyllable) % tailCount = 0 ∧
      beforeTail < b ∧ b < beforeTail + tailCount then
    some (a + (b - beforeTail))
  else none

/-! ### Taking apart and putting together -/

/-- A character taken apart as far as possible; parts are taken apart `fuel` times. -/
private def decompose (fuel n : Nat) : List Nat :=
  match fuel with
  | 0 => [n]
  | fuel + 1 => match syllableParts? n with
    | some ns => ns
    | none => match parts.find? fun p => p.whole = n with
      | none => [n]
      | some p => decompose fuel p.first ++ (p.second.map fun m => decompose fuel m).getD []

/-- The marks at the head of a text in the order of their classes, and then the rest. -/
private def orderFrom (marks : List Nat) : List Nat → List Nat
  | [] => marks.mergeSort fun m n => markClass m ≤ markClass n
  | n :: rest =>
    if markClass n = 0 then (marks.mergeSort fun m n => markClass m ≤ markClass n) ++ n :: orderFrom [] rest
    else orderFrom (marks ++ [n]) rest

private def join? (a b : Nat) : Option Nat :=
  (syllable? a b).or ((parts.find? fun p => p.joins && p.first = a && p.second = some b).map fun p => p.whole)

/-- Puts a text together: the last character that is no mark, if there was one, and what stands behind it, which was not
joined with it. -/
private def composeFrom (start : Option Nat) (behind : List Nat) : List Nat → List Nat
  | [] => start.toList ++ behind
  | n :: rest =>
    let blocked := match behind.getLast? with
      | none => false
      | some m => markClass m = 0 || markClass n ≤ markClass m
    match if blocked then none else start.bind fun s => join? s n with
    | some joined => composeFrom (some joined) behind rest
    | none =>
      if markClass n = 0 then start.toList ++ behind ++ composeFrom (some n) [] rest
      else composeFrom start (behind ++ [n]) rest

/-- The composed form of a text. -/
def normalize (cs : List Char) : List Char :=
  (composeFrom none [] (orderFrom [] (cs.flatMap fun c => decompose 8 c.toNat))).map Char.ofNat

end YamlSchema.Text.Unicode.Composition
