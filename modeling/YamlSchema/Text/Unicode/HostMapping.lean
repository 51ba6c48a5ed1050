import YamlSchema.Text.Unicode.Ranges

/-!
# Characters of host names

What becomes of a character in the name of a host: it stays, vanishes, is replaced by others, such as a capital letter
by the small one, or may not stand there.
-/

namespace YamlSchema.Text.Unicode.HostMapping

private def data : String :=
  String.join
    ["i0aPY0cObS3dVX442X0u803aH61042X0u469dV42X0u13XmE642X0v73eF3aL043XHeY4XK43XHeY4XI43XJeY4XK0a7Y00X7Y0c0aF4",
     "2Z9u70A2Z9ZAB0HA2ZCbNN42rSZEa93dHH3mN03j4B3iS3209iQ3263aU3iK3iM3203iQ3iU03j63j232C3j63jA03jCH3jK3203jK63",
     "203jK3209jIB3jM32C32X4G2Z4hUG2ZCZAG2ZEZAXF0XL0G2Z4ZQ3203c13ZFZN3e30XLU3rYM3203g53rYG63203i53aA3aETnQ3XaF",
     "3aL3XaF3Xa13ZL3ZJ3Z93XZV3XZTbK42X0u642X0u742X0uA42X0v842X0u342X0uB63dP3Xd93XcT3XcL3aTmS9ZV03YV42u8u13d8X",
     "G1bQB3hL0320842X0zPC3Xq53d8K42X0u143X0u8u13YC3XiVFYA23a029ZU0Z3Y02XJY0cC3G3XR3XH3P3B3H3T3XB0Y73ZB3YV3YT0",
     "3ZN3ZV03203ZB326Fe3YTb0bTY0eQZ5XAb13UX90eV2d1Z08eE42Xh5Xi2C8C2g4XCaSKUZ2ZU2mA42Xn7XpK42Xo8XpK42Xs7XpK42X",
     "oAXpKoI2eQ8gS8oOYGgS8f08YK2b2802XSQbKXCjS2rO42YeLYfS42YeMYfS42YeNYfS42YeSYfS42Yf1YfS42Yf2YfS42YfBYfS42Yf",
     "FYfScI2XA868ZU2X420EI8XG868IXC0K42Yj1YjS42Yj2YjS242YjFYjSI8aG8C2UK68ZU2X42042YnIYnS2042YnOYnS26802OK68CE",
     "0X642YmMYnS42YmNYnS42YmSYnS0242YnBYnSX6Z0XOC2XG2C2ZU2X4262O8XM2C2C80YMI8Y2X6X42C2XA868ZU2X4262O8XG868CX6",
     "CK42Yv1YvS42Yv2YvS2O8Z6XO62UEC2IE62026E6ECEY2KOEC2I80X00YGZOQY82C2a42YQ8XG2C2IX662C808I8XMX6ZU2C2a42XM2O",
     "8XG2C2IX66X062I8XM2CY4Y82C2fC2C2UKYQ8aM2C2Z6EaA2XG208X4E0KU202XAX0XM8CY4f642ZoDZnIX4Kb8cQ6202O2aA202Y242",
     "ZsDZrIXM8O202X42XM842ZrBZqP42ZrBZr16bSY231fU42Zw2ZzNI2I42ZwCZzNI42ZwHZzNI42ZwMZzNI42ZwRZzNY242Zw0ZzLCK64",
     "2ZxHZxI042ZxHZxK42ZzIZy043ZzIZxHZy042ZzJZy043ZzJZxHZy0X442ZxHZy0Z042ZyIZzNI2I42ZySZzNI42Zz1ZzNI42Zz6ZzNI",
     "42ZzBZzNY242ZyGZzLC2YK2Y8cQzQd1kc023kc0Q3kc08e23XVo67XhA2I8X4202I8dG2I8c02I8X4202I8YK2gG2I8iC8bQEaMX0lU8",
     "X1F8ZtQ2b2EmGX6ZUXIaAXIZIY4Y82C26Y4fI7dA8XMX0XMX0XSPXMX0mGX6dSQiUXObK2Y2KY2K0EdM8OXUe2KaMX0XSEhE8i02b88X",
     "SX0XMX0YE8bKf2k82+UXCh2EYKEfC3iaR3iaP3ia79ia33ia53iZN3iY73Yay6320QdVbxV8FbxVXAXCdSQe23kiL3kaD3kiN09kiN3j",
     "r9XDkiN03kiP3jnJ3kiR3kiP9kiN3kiL3kk39jl73a73kk99kk73jl19jkV3kkB03kk73kk53kWB3kk53jlT9ZR3kkB9kk53ZN3jkL3k",
     "k93ZDFiwL9ivJ3klH3kl19kkT9ix73iwD9iw5Y83ipLc63jqH3kpH3jqF3kgR3jq53kpJ3jq33jq13jpRFjpN3YN3jmL3jpN3Y93jmN3",
     "jpL3jpPLjpN3jpJ9jp13kWJ9joP3fN9joR3kq1FjoN3jWDhQk1I42Z1rU3ZJ63kxT0eVXAXDFU8X1F8XAXDFXAXDFU8X1F8XA23F23F2",
     "3F23FXAXDF03jy903jyB03jyD03jyF03jwP03jwR03jwT842du0zP42du1zP42du2zP42du3zP42du4zP42du5zP42du6zP42du7zP42",
     "du0zP42du1zP42du2zP42du3zP42du4zP42du5zP42du6zP42du7zP42dv0zP42dv1zP42dv2zP42dv3zP42dv4zP42dv5zP42dv6zP4",
     "2dv7zP42dv0zP42dv1zP42dv2zP42dv3zP42dv4zP42dv5zP42dv6zP42dv7zP42dx0zP42dx1zP42dx2zP42dx3zP42dx4zP42dx5zP",
     "42dx6zP42dx7zP42dx0zP42dx1zP42dx2zP42dx3zP42dx4zP42dx5zP42dx6zP42dx7zP642dxGzP42zHzP42zCzP2042dzMzP9F3aJ",
     "3kWT42zHzP42X0uJ3kW942X0uJ42X0w243X0u8w242dxKzP42zNzP42zEzP2042d+6zP3bB3kXN3bB3kXP42zNzP43X0uJu043X0uJu1",
     "43X0uJw2C3ka5869F3c73kYN243X0uKu043X0uKu143X0uKw2C3kZ5I9F3cV3kXR3D43X0u8u043X0u8u13luT842dxSzP42+9zP42+E",
     "zP2042d-MzP3dV3kYP3dR3kYP42+9zP42X0u142X0uK23lzV3l+13l+33l+53l+73l+93l+B3l+D3l+F3l+H3l+J168031O42X0vJY2E",
     "0X63mWTC42eXIeXI43eXIeXIeXI042eXLeXL43eXLeXLeXLI42X1X1042X0u5XA42XVXV42XVX142X1XVY844eXIeXIeXIeXIX43mZTP",
     "QV3mZV3mWF8X1mZV3maT3vE3mZT9mb93mX1XPmaV3mbT3uE3maT9mc923mYT3mYN3mY53mXL3lZL3mYPLmYL3mYJ9mYFEXA42ZIZJaAY",
     "Mc0YM43Z1XFZ343Z1XFZJ3mfT42bGZ3043Z3XFZF43Z3XFZL3lgN042bGZ69mg53mg73mg93mgB3l+F3mgD3mgF3mgB3mgD03mgD42ZE",
     "ZF6FmgH3mgJ3mgL642ZJZD43ZKZ5ZC42ZKZD03mgJ03krP03mgR03mhT3maB9miJ03miJ9miL3XO3miB3mi9Ljs93miV043Z6Z1ZO3kt",
     "N3kuJ3kuL3ktT3j2I3mk19mk39mjTU43XHeY4XN43XHeY4XP44XHeY4XHXG43XHeY4XJ43XIeY4XJ43XHeY4XL43XIeY4XL43XJeY4XL",
     "43XKeY4XL43XHeY4XM43XLeY4XM43XHeY4XO43XJeY4XO43XLeY4XO43XNeY4XO42XHeY43mlD42Z9Z943Z9Z9Z942Z9ZM3mkR42ZMZ9",
     "43ZMZ9Z944ZMZ9Z9Z942Z9ZO3ml142ZOZ943ZOZ9Z93mlV9mmJ3mm33mmD42Z9Z943Z9Z9Z942Z9ZM3mlR42ZMZ943ZMZ9Z944ZMZ9Z9",
     "Z942Z9ZO3mm142ZOZ943ZOZ9Z93mmV9mnJ3mn3C32O43XGeY4XJ6Kz242enBenB43enBenBenB042enEenE43enEenEenEXkA9cjUXlK",
     "a0XSZQXJoYT42XHXG42XHXH42XHXI42XHXJ42XHXK42XHXL42XHXM42XHXN42XHXO42XHXP42XIXG43X8XHX943X8XIX943X8XJX943X",
     "8XKX943X8XLX943X8XMX943X8XNX943X8XOX943X8XPX944X8XHXGX944X8XHXHX944X8XHXIX944X8XHXJX944X8XHXKX944X8XHXLX",
     "944X8XHXMX944X8XHXNX944X8XHXOX944X8XHXPX944X8XIXGX9ZK43X8Z1X943X8Z2X943X8Z3X943X8Z4X943X8Z5X943X8Z6X943X",
     "8Z7X943X8Z8X943X8Z9X943X8ZAX943X8ZBX943X8ZCX943X8ZDX943X8ZEX943X8ZFX943X8ZGX943X8ZHX943X8ZIX943X8ZJX943X",
     "8ZKX943X8ZLX943X8ZMX943X8ZNX943X8ZOX943X8ZPX943X8ZQX9aPob9aPocT3ohJds044enBenBenBenBp443XQXQXT42XTXT43XT",
     "XTXToO42gsTvOy48bQ2pGeTZ0eQ3203q-D3dkB3q+D6H3rXN3q-P3rXT3rXR032632U3sX33sWD9rZTfBX4BC320Qe820Q08gAX63R0Y",
     "GaAXIX42X42X42X42X42X42X42X42tEc8aM2I3+oSlC3XugOY43lm03loE3lp83lpO3lrA3lu03luC3lvI3lx43nZC3nbM3nc03ndC3n",
     "eI3nfQ3nj23nkA3nkU3nuI3n+C3oW23oWA3oY43oYK3oa83ob03ocG3ofM3ogO3oiC3pxI3qW03qyM3q+23q+G3q-43rW63raS3sYK3s",
     "bI3sj03skC3slG3smQ3sq43sq83tgQ3thC3ti23tiQ3tq03tqE3tqM3txU3tyG3tz83tzM3uXE3uYE3uZG3ueE3viM3vlG3vmO3w+U3w",
     "-63xaA3xb83xc03xd83xfK3xfS3xwG3xxU3xzS3zzA3+XC3+YO3+cA3+dO3+e83+eK3+hQ3+i23+k03XWnC3XXj83XXjU3XXk63XXkC3",
     "XXkQ3XXlS3XXlU3XXqU3XYYC3XYYK3XYtO3XYuA3XYxC3XYxO3XYy83XYyM3XZYA3XZYM3XZmS3XZn83XZq83XZr83XZu43XacS3Xad8",
     "3Xae83XayK3XbaE3XbaO3Xbm23XbrE3Xbu83XclQ3Xcu23XdxS3XdzG3XeX03Xea43XeeA3XeeU3Xef83Xeh83XelU3XemG3Xfc23Xfc",
     "E3XfcU3XfdE3XfeC3Xff83XffE3XfkA3XfkG3XfkQ3Xhi23XhjS3Xih43XihQ3Xij63Xi+Q3Xi-I3XjZU3XjcO3Xkg43Xkh03XkhS3Xk",
     "k03Xkm83XkyK3XkzA3XlXE3XlmS3XloO3Xl-O3XmX03XmX83XmkU3XmwC3XnY43XnYE3XnYM3Xoz03XozG3Xpd63XpmO3XpmS3XppO3X",
     "pw83Xpx03Xpx63XpxI3XqXK3XqZM3Xqa03XqaQ3Xql63XqoA3XqoG3XqzS3Xq+03Xq-43XrkQ3XrnO3Xro43XrsE3Xrt03Xrt43XrtM3",
     "XrvG3Xso43Xth23XthK3XtjU3Xtl83XtlM3Xtm83XtmE3XtoS3Xtp23Xtq23XtqA3Xtr23XtsM3XttI3Xtu03XtxK3XtyG3XtyMdO3tz",
     "V03tz7fC3Y703nmI9nmMO2lU8642X0iaP42X0iaQ642ia8iaAnK42ibJic8QdS29mZ13luH3mZ39luHFmZ7X1luJ3mYBFmZL3mY5XPmZ",
     "NZRl+R19mb19lvV3lvP3lvN3lvF3lv93lv73mb33lv33lv19mb73mb59mb33maT3maRRmaP3maL3maF3mZT3mZH3mZ99lv1FmYP9mW53",
     "mW19l-H3l-F3l+T3l+P263kcS3klI3kdA3oqC3kd83kfC3kd63XXvI3khU3kdS3kcA3puO3ov43knMiUXOYQ43X8ae0X943X8ae2X943",
     "X8ae3X943X8ae5X943X8ae6X943X8ae7X943X8ae9X943X8aeBX943X8aeCX943X8aeEX943X8aeFX943X8aeGX943X8aeHX943X8aeI",
     "X943X8XhW0X943X8XiaOX943X8Xit4X943X8XjxSX943X8Xkk8X943X8XlWKX943X8XmbCX943X8Xng4X943X8XnyGX943X8XpX8X943",
     "X8XppKX943X8Xqc0X943X8XquCX943X8XrgOX943X8XodSX944X8Xnn4XoW4X944X8Xnn4Xrs4X9243X8pm0X943X8pqCX943X8pm9X9",
     "43X8rsRX943X8pqKX943X8qhDX943X8pm3X943X8qhBX943X8poTX943X8qw1X943X8vu8X943X8yZBX943X8xXKX943X8vv8X943X8X",
     "akHX943X8ruVX943X8vl5X943X8wXAX943X8vu9X943X8+fUX943X8rWDX943X8ypPX943X8XZb1X943X8+gTX943X8qrKX943X8pt3X",
     "943X8rZSX943X8sx6X943X8zt3X943X8pu1X943X8XZc7X943X8qwKX943X8+hDX943X8puHX943X8XWlAX943X8XWlJX93nmM3sZE3v",
     "q23XaqGXA43ZGZKZ542XIXH42XIXI42XIXJ42XIXK42XIXL42XIXM42XIXN42XIXO42XIXP42XJXG42XJXH42XJXI42XJXJ42XJXK42X",
     "JXL3mrV9mrTFmrR3mrP9mrNRmrL3Xyv43X-YI3YWd83YYmM3YZrC3Yaw23YdZG3YfiU3YgnK3Yix23Yj-O3YlaE3Ymf43YnjQ42XpXOX",
     "hd042XodSXnwO3YgZ403ju03kWM3juE3obG3kX03lkG3jtQ3lk83jzA3mhG3wdS3++03ywG3wfM3Xlq63of03vrA3wvI3wdE3XZgM3mt",
     "I3-+83XjWM3XZiC3mXO3XZpU3XXfQ3pjG3XkyQ3leQ3mj43zaI3XosA3kd03llE3yi03jsC3juG3jsA3rpU3mqM3mf43qkQ3qhM3XYZE",
     "3kb83XjXI3mgA3pcO42XJXM42XJXN42XJXO42XJXP42XKXG42XKXH42XKXI42XKXJ42XKXK42XKXL42XKXM42XKXN42XKXO42XKXP42X",
     "LXG42XHvu842XIvu842XJvu842XKvu842XLvu842XMvu842XNvu842XOvu842XPvu843XHXGvu843XHXHvu843XHXIvu842Z8Z743Z5Z",
     "IZ742Z5ZM43ZCZKZ43XYR3XYP3XYN3XYL9XYJ3XYH3XYF3XYD3XYB3XY93XY73XY53XY33XY13XXV3XXT3XXP3XXN3XXLX1XXJ3XXF3X",
     "XB3XX73XX3RXWV3XWT3XWRX1XWPLXWN42pt4raC44ib2icHidSic844ib2idBicLib144ib2idJicQib243ib2idSidB44ib4icBidJi",
     "bG43ib4idJic143ib6ib9idJ45ib8ibPibFidSic944ib8idSibBidS43ibAidJibP43ibAidSid043ibBib4idA44ibBid9ic3ic844",
     "ibBidDidAidS43ibCidDidJ43ibCidJicU42ibEibC43ibEicBidS44ibDid5idAidS44ibEidBic0idS42ibDidD45ibDidDibGid9i",
     "d046ibDidDid1idSic8idB45ibDidDidFic3ic843ibGid9id045ibGid9id0ic8idJ45ibFidBibSib4idD44ibFidDidSicD43ibHi",
     "dSibP43ibJidBicA43ibJidSicT44ibLib4ibFidB45ibLidJic1idSid044ibNidAidJibG43ibRidJic143ibRidJic843ic0idSib",
     "P42ic7ibN42ic9idB42ic8idJ42icAicE43icEic3ic843icFib4ic445icHidSibRidJic843icHidSic444icGidSidCidB45icKib",
     "2ibPic8idB43icKibFidB42icKibJ42icJidB45icLib1id9ic3ic944icLib3idSic845icMic3ibNib7idB43icLid9idJ45icOibF",
     "ibVidSidB42icQibT43icQicBicI43icOidBic443icQidJibP43icQidSibO43icPidSibV44icTib4idJic843icSidBic842icRid",
     "J43icTidJic943icRidSidB43icRidSidJ44icUib4ibFidD43icUib4idB43icUic3icF43icUidBibF45icUidJibNid7idJ44icVi",
     "bFidDidJ42icVidA45icVidAicGidSidB42id1ibC44id1ibCic8idJ44id1idSic8idB43id4idSic943id4idSidB43id6ib2idJ44",
     "idAic3ic8idB42idAid943idBicKidS44idBidSicMidB42idCid045idCidJic8ibIidJ43idFic3ic842XGybP42XHybP42XIybP42",
     "XJybP42XKybP42XLybP42XMybP42XNybP42XOybP42XPybP43XHXGybP43XHXHybP43XHXIybP43XHXJybP43XHXKybP43XHXLybP43X",
     "HXMybP43XHXNybP43XHXOybP43XHXPybP43XIXGybP43XIXHybP43XIXIybP43XIXJybP43XIXKybP43Z8ZGZ142Z4Z142Z1ZL43Z2Z1",
     "ZI42ZFZM42ZGZ342Z4ZD43Z4ZDXI43Z4ZDXJ42Z9ZL42tpJumG42vnDraC42sf7wx342vmExbR44wXAtuFpuQ+fU42ZGZ142ZEZ142zS",
     "Z142ZDZ142ZBZ142ZBZ242ZDZ242Z7Z243Z3Z1ZC44ZBZ3Z1ZC42ZGZ642ZEZ642zSZ642zSZ742ZDZ742ZBZ742Z8ZQ43ZBZ8ZQ43ZD",
     "Z8ZQ43Z7Z8ZQ43ZKZ8ZQ42zSZC42ZDZC42Z4ZC42ZBZC42Z6ZD42ZEZD42zSZD42ZDZD42Z3ZD42ZBZD43ZDZDXI43Z3ZDXI42ZDXI43",
     "ZBZDXI43ZDZDXJ43Z3ZDXJ42ZDXJ43ZBZDXJ43ZDemLZJ44ZDemLZJXI42ZGZ143ZBZGZ143ZDZGZ143Z7ZGZ143ZIZ1Z445ZIZ1Z4em",
     "LZJ46ZIZ1Z4emLZJXI42ZGZJ42ZEZJ42zSZJ42ZDZJ42ZGZM42ZEZM42zSZM42ZDZM42ZBZM42ZDZM42ZGZN42ZEZN42zSZN42ZDZN42",
     "ZBZN42ZDZN42ZB+942ZD+9242Z2ZH42Z3Z342Z3Z444Z3emLZBZ7242Z4Z242Z7ZP42Z8Z142Z8ZG42Z9ZE42ZBZB42ZBZD42ZBZK42Z",
     "CZD42ZCZE43ZCZFZ742ZCZO42ZDZ243ZDZ9ZC43ZDZFZC42ZGZ8243ZGZGZD42ZGZI42ZJZI42ZJZM42ZNZ243ZMemLZD43Z1emLZD42",
     "XHvl542XIvl542XJvl542XKvl542XLvl542XMvl542XNvl542XOvl542XPvl543XHXGvl543XHXHvl543XHXIvl543XHXJvl543XHXKv",
     "l543XHXLvl543XHXMvl543XHXNvl543XHXOvl543XHXPvl543XIXGvl543XIXHvl543XIXIvl543XIXJvl543XIXKvl543XIXLvl543X",
     "IXMvl543XIXNvl543XIXOvl543XIXPvl543XJXGvl543XJXHvl543Z7Z1ZCbew8Eg4XIYX2ZKa9Z6YJ3Ynb33Ynb1mMXCc6X96bP31XA",
     "B3YbW7TC3203YooF6B6XR3Yoq73YoqT3YoqL3Yoq13Yoq703Yon33YooJ3Yon93Xw0XF3YV3Yoq53YbZFB3YosD32083202020H3Ypa1",
     "ZQ3YpuT3YpuP3Ypu53263Ypj13YpgBfCEXMX0gAXCiUXCY2X0rIXUbEEkE2XSKc02g4XIYE8XM8p4aCb2XOU8U8UXIX42X42e23YZ93Y",
     "B3Yql53PXG3YqjN6KkTYhyVeE8XMX0YXkIY4a4Kf0XnmK3XshF3YfWP3XrZF3XsZL3YbZ53Yrj53Yoo13XisL3XisN3YlxF3XppH3Ynu",
     "73Yly73YhnD3YXg93XyuJ3Xvj13XurD3XuXJ3Xqe73Ydn33Yb-J3YaZP3YYpH3XwjL3XpwT3XloH3YrfH3YowD3YdXH3YZm53Xvl33Xj",
     "m33Yjz13YapD3XvrB3XtxV3YhbN3XxqR3XumF3YjbR3YfX33YbxV3YZYT3XqbR3YqwD3YptD3Ypb13YgcN3YdbR3YZo33YXaN3Xyp53X",
     "voT3XvjJ3XrqF3XnWB3XkyJ3XjpV3YWgT3X-xP3XzvP3Xwt93XpZL3Xji13XtcL3Ymc53YjZT3X+k73XyiD3YZk73YWdP3XseB3Xnb33",
     "Ymd33YkkH3YdpH3Ybt53YbZT3X+XV3XznH3XnmB3YpdV3XyiF3YptF3YpuH3X-pJ3XzvH3XwsD3Xnk73XszJ3YheN3YdrJ3XtbT3Yro9",
     "3YktF3YiqR3YYzJ3YX-33YpaN3YWcH3YqwB3YixP3YrrJ3YcfN3Yf-13X+aF3YowF3YmmR3YXcN3Xwo93Xti93YcxB3Xqy13YckJ3Yhd",
     "93XxeT3Ygz93YYX13YriH3YqWT3YpwV3YelH3X+f73XxmP3XtgL3XpwT3YpeJ3YopR3YmWR3YjfB3YfxR3YauB3YWbL3XnzH3XlnP3Xj",
     "l13XjhL3YpkT3Yfi93YdX93XrYL3YjnJ3Yh-T3YhuV3YglD3YbcT3YaaJ3YYmL3X-yL3Xzw33XyoF3Xrd33XwgL3XqtD3Xpb13Ypu93Y",
     "plJ3Yok13YajD3XujR3XtlD3YjjH3YiwR3YhYH3Yc-D3X+sF3YZZ33Yri73YngV3Yky53Yj-13YiuV3YY-L3YYq93XzX93XysJ3XptP3",
     "XnhN3XncL3XmvN3YrYJ3YWWF3XqW53XnlV3YijF3Yrp73Yqk13YkyR3YktR3YgY93YdxP3YZ-33YXtT3XwiB3XqqD3XjZD3YfpP3XnvF",
     "3YppR3YfaP3YezB3YceH3YboT3YYy53YYd73YWs53X+hT3Xmt33Yqc73Yhw73XnrL3YqwH3YkhN3Yb+N3XrgP3YjaP3Yif93Yey53YZb",
     "73XnrB3Ypx73YoyT3YktJ3YfyP3Yff53YepJ3YclR3YYzR3YYW53XzcP3XunF3XumD3XqXP3XnmF3YpgN3Ybp33YoyV3YaXR3YYrD3Xv",
     "-B3XnqR3XkvL3Xjr73YfbP3YcYJ3XyWR3X-oN3X-jF3X+sD3YZpJ3Yas33Xtg73YrpP3XxiF3Ypy93Yp-H3YjrL3YhoT3X+oP3YldT3Y",
     "ckD3Yfr33XriN3XuxN3XnxN3XudT3YjpF3YqiN3YoaP63YmxB03YfvR63YqZD3YZkN3YXqP3YWjN3YWhL3YWh93YWeN3XniB3X+rT3Xz",
     "c103XwWR03XtoJ63Xq+P3XqoHC3XmpL3XmoT3Xmm73XkdH3XqqV3XntF3Yre33YqqJ3Yqk93YpsJ3YpqV3Ypk73YofH3YoZ13YnyV3Ym",
     "-H3Ymv33YkzD3YkyR3YiwH3YijB3Yih13YiaR3Ygl33YgbV3Yfx33YexT3YciR3YcYN3Ybo93YajJ3YaXR3YZYF3YWxJ3YWmR3YWm73Y",
     "WmB3YWlT3YWlJ3YWl79YWi93YWX73X-z73X-fB3X+c53X+aT3X+XF3XzkF3XzbB3XycT3Xx+73Xx+93XxWF3XuqV3XuiL3Xts13XtoJ3",
     "Xsv13XsrP3XrgV3XrYT3Xnu93XncJ3XnYT3Yi-B3bae43Xyb983YsaJ3YqhN3YqmJ3Yrl53YqoT3Yql93YpwT3YptP3YojL3Yoo73Yok",
     "13YofH3YnY33YmyJ3YmpJ3YmoL3YmXR3YlrH3YjwV3YjwJ3YjnL3YjjF3YiwR3YipH3YitV3YilL3YioJ3YifH3YibF3YhiH3Yhd33Yh",
     "ZP3YgpJ3YgXP3YftL3YftF3YfpR3YdnN3YdjN3YcrB3YbxP3YbyR3YbtF3YbdP3YaoR3YXlB3YacH3YZ+V3YZtB3YZYV3YYvN3YYsF3Y",
     "YeD3YYeB3YXzN3YXyN3YXx73YXrT3YXsJ3YWzT3X--L3X-kP3X-Z53X+r73X+hN3Xzt53XzgP3Xxs13Xxi93XvpN3Xut93Xup13Xuo33",
     "Xt-J3Xty33Xt+V3XtxL3XtxT3Xtz13XtuB3XtpB3XsxH3XruJ3Xrb13XqoL3XqaT3XoaJ3Xn+73Xnt33XnkR3XniL3XnhV3Xnf13XlxL",
     "3Xjp33astM3ast83aym83Y-p93YzhL3YzfL3bht83bm-K3cX-O3Xjv93XjqLd042Z6Z642Z6Z942Z6ZC43Z6Z6Z943Z6Z6ZCA2ZJZKY4",
     "42XhKXhM42XhKXh542XhKXhB42XhUXhM42XhKXhDQ42XkPXjK042XlIXjN3ZwpR3Zwr19ZwqTFZwqH3ZwpT3ZwpR3ZzlR42Xl9Xk142X",
     "l9Xk243Xl9XjSXk143Xl9XjSXk242XkGXjN42XkGXjO42XkGXjS42XkHXjS42XkIXjS42XkJXjS42XkKXjS42XkLXjS42XkMXjS242Xk",
     "OXjS42XkPXjS42XkQXjS42XkRXjS42XkSXjS242XkUXjS242Xl0XjS42Xl1XjS242Xl3XjS42Xl4XjS242Xl6XjS42Xl7XjS42Xl8XjS",
     "42Xl9XjS42XlAXjS42XkLXjP42XkHXjV42XkRXjV42Xl4XjV42XkGXkS3ZwjT3ZwjV3ZwjD3ZwjF3ZwjH3ZwjJ3ZwjF3ZwjH3ZwjJ3Zw",
     "jL3ZwjJ3ZwjL3ZwjN3ZwjP3Zwk73Zwk93ZwkB3ZwkD3Zwk53Zwk73Zwk93ZwkB3ZwkP3ZwkR3ZwkT3ZwkV3ZwiB3ZwiD3ZwiF3ZwiH3Z",
     "wiF3ZwiH3ZwiJ3ZwiL3ZwkR3ZwkT3ZwkV3Zwl13Zwl53Zwl73Zwl93ZwlB3Zwl73Zwl93ZwlB9ZwlD3ZwlF3ZwlH3ZwlJ3Zwl93ZwlB3",
     "ZwlF3ZwlH3ZwlF3ZwlH3ZwlV3Zwm13Zwl33Zwl53ZwlL3ZwlN3Zwk93ZwkB3ZwkD3ZwkF3Zwk53Zwk73Zwk93ZwkB3Zwk53Zwk73Zwk9",
     "3ZwkB3ZwkH3ZwkJ3ZwkL3ZwkN3Zwk79Zwk93ZwkB3ZwkD3ZwkF3Zwk79Zwk93ZwkB3ZwkD3ZwkF3ZwkN3ZwkP3ZwkR3ZwkT3ZwjN9Zwj",
     "P3ZwjRZ0YS3ZwoB3ZwoD3ZwoF3ZwoH3ZwmV3Zwn13Zwn53Zwn73Zwn53Zwn742Xs7XpK3Zwn53Zwn73ZwnL3ZwnN3ZwnH3ZwnJ3Zwn73",
     "Zwn93ZwnB3ZwnD3ZwvT3ZwvVA2Xn6Xn7A2Xn6XsLA2Xn6Xo8A2Xn6Xs7A2Xn6Xs6A2Xn6Xs8G2Xn6XsGG2Xn6Xo93ZwoV3Zwp13Zwp33",
     "Zwp542Xn6XnC42Xn6XnD42Xn6Xo542Xn6Xo942Xn6XoA42Xn8XnC42Xn8XnD42Xn8XnE42Xn8Xo542Xn8Xo942Xn8XoA42XnAXnC42Xn",
     "AXnD42XnAXnE42XnAXo542XnAXo942XnAXoA42XnBXnC42XnBXo542XnBXo942XnBXoA42XnCXnD42XnCXo542XnDXnC42XnDXo542Xn",
     "EXnC42XnEXnD42XnEXo542XnJXnC42XnJXnD42XnJXnE42XnJXo542XnLXnD42XnLXo542XnMXnC42XnMXnD42XnMXnE42XnMXo542Xn",
     "NXnD42XnNXo542XnOXo542XnPXnC42XnPXo542XnQXnC42XnQXo542Xo1XnC42Xo1XnD42Xo1XnE42Xo1Xo542Xo1Xo942Xo1XoA42Xo",
     "2XnD42Xo2Xo542Xo2Xo942Xo2XoA42Xo3Xn742Xo3XnC42Xo3XnD42Xo3XnE42Xo3Xo442Xo3Xo542Xo3Xo942Xo3XoA42Xo4XnC42Xo",
     "4XnD42Xo4XnE42Xo4Xo542Xo4Xo942Xo4XoA42Xo5XnC42Xo5XnD42Xo5XnE42Xo5Xo542Xo5Xo942Xo5XoA42Xo6XnC42Xo6XnD42Xo",
     "6XnE42Xo6Xo542Xo6Xo942Xo6XoA42Xo7XnC42Xo7Xo542Xo7Xo942Xo7XoA42XoAXnC42XoAXnD42XoAXnE42XoAXo542XoAXo942Xo",
     "AXoA42XnGXpG42XnHXpG42Xo9XpG43X0XoCXoH43X0XoDXoH43X0XoEXoH43X0XoFXoH43X0XoGXoH43X0XoHXpG42Xn6XnH42Xn6XnI",
     "42Xn6Xo542Xn6Xo642Xn6Xo942Xn6XoA42Xn8XnH42Xn8XnI42Xn8Xo542Xn8Xo642Xn8Xo942Xn8XoA42XnAXnH42XnAXnI42XnAXo5",
     "42XnAXo642XnAXo942XnAXoA42XnBXnH42XnBXnI42XnBXo542XnBXo642XnBXo942XnBXoA42Xo1Xo942Xo1XoA42Xo2Xo942Xo2XoA",
     "42Xo3Xn742Xo3Xo442Xo3Xo542Xo3Xo942Xo3XoA42Xo4Xo542Xo4Xo942Xo4XoA42Xo5Xn742Xo5Xo542Xo6XnH42Xo6XnI42Xo6Xo5",
     "42Xo6Xo642Xo6Xo942Xo6XoA42Xo9XpG42XoAXnH42XoAXnI42XoAXo542XoAXo642XoAXo942XoAXoA42Xn6XnC42Xn6XnD42Xn6XnE",
     "42Xn6Xo542Xn6Xo742Xn8XnC42Xn8XnD42Xn8XnE42Xn8Xo542Xn8Xo742XnAXnC42XnAXnD42XnAXnE42XnAXo542XnAXo742XnBXo5",
     "42XnCXnD42XnCXo542XnDXnC42XnDXo542XnEXnC42XnEXo542XnJXnC42XnJXnD42XnJXnE42XnJXo542XnLXnD42XnLXnE42XnLXo5",
     "42XnMXnC42XnMXnD42XnMXnE42XnMXo542XnNXnD42XnOXo542XnPXnC42XnPXo542XnQXnC42XnQXo542Xo1XnC42Xo1XnD42Xo1XnE",
     "42Xo1Xo542Xo2XnD42Xo2Xo542Xo3XnC42Xo3XnD42Xo3XnE42Xo3Xo442Xo3Xo542Xo4XnC42Xo4XnD42Xo4XnE42Xo4Xo542Xo4Xo7",
     "42Xo5XnC42Xo5XnD42Xo5XnE42Xo5Xo542Xo6XnC42Xo6XnD42Xo6XnE42Xo6Xo542Xo6Xo742Xo7XnC42Xo7Xo542Xo7XpG42XoAXnC",
     "42XoAXnD42XoAXnE42XoAXo542XoAXo742Xn6Xo542Xn6Xo742Xn8Xo542Xn8Xo742XnAXo542XnAXo742XnBXo542XnBXo742XnJXo5",
     "42XnJXo742XnKXo542XnKXo742Xo3Xo442Xo3Xo542Xo4Xo542Xo6Xo542Xo6Xo742XoAXo542XoAXo743Xo0XoEXoH43Xo0XoFXoH43",
     "Xo0XoGXoH42XnNXo942XnNXoA42XnPXo942XnPXoA42XnQXo942XnQXoA42XnJXo942XnJXoA42XnKXo942XnKXoA42XnDXo942XnDXo",
     "A42XnCXo942XnCXoA42XnEXo942XnEXoA42XnLXo942XnLXoA42XnMXo942XnMXoA42XnKXnC42XnKXnD42XnKXnE42XnKXo542XnKXn",
     "H42XnJXnH42XnLXnH42XnMXnH42XnNXo942XnNXoA42XnPXo942XnPXoA42XnQXo942XnQXoA42XnJXo942XnJXoA42XnKXo942XnKXo",
     "A42XnDXo942XnDXoA42XnCXo942XnCXoA42XnEXo942XnEXoA42XnLXo942XnLXoA42XnMXo942XnMXoA42XnKXnC42XnKXnD42XnKXn",
     "E42XnKXo542XnKXnH42XnJXnH42XnLXnH42XnMXnH42XnKXnC42XnKXnD42XnKXnE42XnKXo542XnJXo742XnKXo742XnNXo542XnJXn",
     "C42XnJXnD42XnJXnE42XnKXnC42XnKXnD42XnKXnE42XnNXo542XnOXo5A2Xn7XoBZ643XnAXnCXo5A3XnAXnDXnC43XnAXnDXo543Xn",
     "AXnEXo543XnAXo5XnC43XnAXo5XnD43XnAXo5XnEA3XnCXo5XnD43XnDXo5XoA43XnDXo5Xo943XnJXnDXnC43XnJXnCXnD43XnJXnCX",
     "o9A3XnJXo5XnD43XnJXo5XnCA3XnJXo5Xo5A3XnLXnDXnD43XnLXo5Xo5A3XnKXnDXo543XnKXnCXoAA3XnKXo5XnEA3XnKXo5Xo543X",
     "nMXnDXo9A3XnMXnEXo5A3XnNXo5XnD43XnNXo5Xo543XnNXo5XoA43XnPXnCXo5A3XnPXo5Xo543XnPXo5Xo943XnQXo5Xo543XnQXo5",
     "XoA43XnQXo5Xo9A3Xo1XnEXo543Xo2Xo5XnD43Xo2Xo5Xo543Xo4XnDXo543Xo4XnDXoA43Xo4XnDXo9A3Xo4XnCXnCA3Xo4XnEXo5A3",
     "Xo4Xo5XnD43Xo5XnDXnC43Xo5XnDXo543Xo5XnDXoA43Xo5XnCXnD43Xo5XnCXo543Xo5XnEXnC43Xo5XnEXo5843Xo5XnCXnE43Xo7X",
     "o5XnC43Xo7Xo5Xo543Xo6XnDXo543Xo6XnDXo9A3Xo6XnCXo543Xo6XnCXo943Xo6Xo5XoA43Xo6Xo5Xo9A3XoAXo5Xo543Xn8XnEXoA",
     "43XnAXnCXoA43XnAXnCXo943XnAXnEXoA43XnAXnEXo943XnAXo5XoA43XnAXo5Xo943XnCXo5XoA43XnCXnDXo943XnCXo5Xo943XnJ",
     "XnEXo943XnLXnDXoA43XnKXnDXoA43XnMXnDXoA43Xo4XnCXoA43Xo4Xo5XoA43XoAXnDXoA43XoAXnCXoA43XoAXo5XoA43Xo5Xo5Xo",
     "A43Xo2Xo5XoA43Xo6XnDXoA43Xo2Xo5XnD43Xo4XnDXo543XnPXo5XoA43Xo3Xo5XoA43Xo6XnCXnD43Xo5XnEXoA43Xo4XnCXo543Xo",
     "3Xo5Xo543Xo4XnCXo543Xo6XnCXnD43XnCXnDXoA43XnDXnCXoA43Xo5XnCXoA43Xo1Xo5XoA43Xn8XnDXoA43Xo3Xo5Xo543XnPXnCX",
     "o543XnLXo5Xo543XnJXnEXoA43Xo6XnCXoAX60bS43XnLXo4XsI43Xo2Xo4XsI44Xn7Xo4Xo4Xo744Xn7Xo3Xn8XnH44Xo5XnDXo5XnF",
     "44XnLXo4XnPXo544XnHXnJXo8Xo444XnPXo4XoAXo744Xo8XnJXo4Xo543XnLXo4Xo94IXnLXo4Xo9X0Xn7Xo4Xo4Xo7X0XnPXo4XoAX",
     "o7X0Xo8XnJXo4Xo548XnCXo4X0XnCXo4Xn7Xo4Xo744XnHXsCXn7Xo4CYR3Z++73ZdWV29Z+zH3Z+-73Z+zD9ZdW1X6YQ23ZlXP3ZlXT",
     "3Z+z73Z+z99Z-WP3Z+xN3Z+xL9ZdY99ZdYL9ZdZ59ZdZDLZdZ963Z++N3Z++LM2X0u53Z++R3Z++T3Z++V3Z-Y73ZdaV83Z-XH3Z-XL3",
     "Z-XD3Z-ZB3Zla79Z-Z13Z+zV3Z+zT9ZdaH3Z-ZN3Z-ZJ9Z-ZD3Z-ZB3Z-YF3Z-YD3Z-YH23Z-WN9Z-a93Z-YLK42X0XoB42Xo0XoB42X",
     "0XoC042X0XoD242X0XoE42Xo0XoE42X0XoF42Xo0XoF42X0XoG42Xo0XoG42X0XoH42Xo0XoH42X0XoI42Xo0XoI9ZybT9ZybV9Zyc19",
     "Zyc39Zyc53Zyc73Zyc99ZycB9ZycD3ZycF3ZycH9ZycJ9ZycL3ZycN3ZycP9ZycR3ZycT3ZycV9Zyd13Zyd33Zyd59Zyd73Zyd93ZydB",
     "9ZydD3ZydF3ZydH9ZydJ9ZydL9ZydN9ZydP9ZydR3ZydT3ZydV9Zye13Zye33Zye59Zye73Zye93ZyeB9ZyeD3ZyeF3ZyeH9ZyeJ3Zye",
     "L3ZyeN9ZyeP3ZyeR3ZyeT9ZyeV3Zyf13Zyf39Zyf53Zyf73Zyf93ZyfB3ZyeV3Zyf13Zyf39Zyf53Zyf73Zyf99ZyfB3ZyfD3ZyfF9Zy",
     "fH3ZyfJ3ZyfL9ZyfN3ZyfP3ZyfR9ZyfT3ZyfV3Zyg19Zyg33Zyg53Zyg79Zyg99ZygB9ZygD3ZygF3ZygH3ZygJA2Xo4Xn2A2Xo4Xn3A",
     "2Xo4Xn5A2Xo4Xn7812bTZ-jVaPZ-hVcLZ-jV9ZgzJ3Z-p59ZdrB3Zds53ZdcJ3Zdd73ZdiB3Zdi93Zdi73Zdi53Zdi33ZdeH3ZdeF3Zd",
     "eD3ZdgN3Zdd73ZdiT3ZdiR3ZdiP3ZdiN9ZdiL3ZdiJ3ZdiH3ZdiF3ZdiD3ZdiB3Zdi93Zdi73Zdi53Zdi33Zdi13ZdhV3ZdhR3ZdhP3Z",
     "dhNX1ZdhL3ZdhH3ZdhD3Zdh93Zdh5RZdh13ZdgV3ZdgTX1ZdgR3ZdgP3ZdgJ9Zdm919Ztg13Zs-H3Ztg39Zs-HFZtg7X1Zs-J3ZtfBFZ",
     "tgL3Ztf5XPZtgNEX1Ztc18X1Ztc58X1Ztc98FZtcDE9Z-pR3Z-pB42X0u43Z-pR3Z-pV3ZlpP23ZjkBLZlbH3ZjaP3ZjY5Z2Y22aM2ZC",
     "262YK8YEc8sSQCKe8EmA2Y8E0eMeEu8b8Ef0YMb2KcIXIbEQdSQbE2cOKYEdOdDYGrU8XMX0cLYGKcIKdAXCfIXU0XVYE2YNYE2X7YE2",
     "9YE2XS2YK2X426EfIY4Xw4XIZUXOXAaC09aYh13aZfP3aYkL3aYp323aYk73XkY33aYk73aYkB9aYp93Zq-N3aYpB3aYp13aYkD3aYoP",
     "3aYoV3aYp53aYlH3aZcR3aYlJ3aYoV3aYn79aYkT3aYoT3ZhsG3XmWT3aYoV3ZhsC3aYn33ZhsA3aZgJ9aYoP3aZp73aYoN3Zhs29aYo",
     "L3aYoJ3aYm53aYmB3XkaB3aYmD3aYoD3ZjpT23aYo59aYn33aYnPFaY-B3Zhr23Zhs8iQU802e226E08a42jAXCXGeSZC26Qc0EaSQ0h",
     "SgAKZI8f626QXA2C2b88CKXMX6XGX6hQbSd4KY2XIfUEb88aSQaMX6IY4X4kSjGg6fFa0YAfCX6eEXCXMX0YQa1Y0Eb8XC6XcSbK2dM2",
     "C86YSCg6e2XCdMa0aMd0b2ZKa4XIkEKcIXIhE2OYAaGX6XMX0fO2Z6XCd4XInQ2ZIXUZ62eKhGX4202I2YK2XSX0gSQXMX0I2XA868ZU",
     "2X4262O2XM868C80X00QX48X4EOXUXM20802cU2XM20802I2XM26XC6bAn22ObGjAXCXM-0fU8cUc8iOXUXMX0Y8ZEgMX0XMX0ZIb4aS",
     "8YKKa4XYIh2oKbTY0fCY4XA808XA262bE268Y2XIXMj0XA8eE8XSaUjAXClCYAjGX6XMXY0c6YGXMX0XG2e82YEXOb8EbQ8ZU2YEjIX4",
     "262e2E0262XGXCXMX0U262cO262UX6XMXw0aGX6Z02dGEb8lQ0YMf6YAbiSp0qK2OXUXaIlk4oCYAceQYSZUXOtiSQZj4XeYIgMgb0Zg",
     "GX6bK2XMKl02XMX0bE8UXOiUXOXM2X42ZOQZCYmSgMXb0bTY0gSoQjSKgGX6Z0hSOXU6YGXZ+AXCddUdIXMXqh6I2X4262XsCYM0bAC8",
     "0YGIXCYg2jmKpSQY8EXGX6XM8IJtX4XdUaPdcd9XPdchVX0YnIk4eE8a4XIrIh4XjUXOd48fO42ZqgNZqh542ZqgOZqh543ZqgOZqh5Z",
     "qhE43ZqgOZqh5ZqhF43ZqgOZqh5ZqhG43ZqgOZqh5ZqhH43ZqgOZqh5ZqhIYEXBhQ42ZqjPZqh542ZqjQZqh543ZqjPZqh5ZqhE43Zqj",
     "QZqh5ZqhE43ZqjPZqh5ZqhF43ZqjQZqh5ZqhFdMZQiUsOZIY4ZIY4m4XIaGv6aPdfvTaPdfxHaPdfz5X7df+P2Z9df+PaPdgWDaPdgY1",
     "3dgZL29dgZL83dgZL89dgZL8LdgZL2XDdgZLLdgb923dgb92X7dgb92XVdgb9aPdgcTaPdgeH9dgg52Ldgg58XDdgg52X7dgg52aPdgh",
     "P9dgjD2LdgjD2RdgjD23dgjDEX7dgjD2aPdgl1aPdgmLaPdgo9aPdgpTaPdgrHaPdgt5aPdguPaPdgwDaPdgy1aPdgzLaPdg-9aPdhWT",
     "aPdhYH3dgt53dgcR8Z3dflD3dfm1X7dflD3cwhJZ3dfn13dfmVX7dfn13cwjH3dfoD3dfo93dfo73dfnH3dfnT3dfo1Z3dfp13dfpLX7",
     "dfp13cwl7Z3dfqL3dfqJX7dfqL3cwn53dfs13dfrT3dfrR3dfr53dfrH3dfrLZ3dfsL3dft9X7dfsL3cwoRZ3dfu93dfu7X7dfu93cwq",
     "P3dfvL3dfvH3dfvF3dfuP3dfv53dfv9Z3dfw93dfwTX7dfw93cwsFZ3dfxT3dfxRX7dfxT3cwuD3dfz93dfz53dfz33dfyD3dfyP3dfy",
     "TZ3dfzT3df+HX7dfzT3cww3Z3df-H3df-FX7df-H3cwy13dgWT3dgWP3dgWN3dgW13dgWD3dgWH3df+P3df+R8XPdhvRXPdhwFXPdhx3",
     "XPdhxNXPdhyBZw2YMO2YKckSbKX0UXdQX42Z08X4262OQXJdj-VFdj-TXVdj-R3dj-N9dj-L3ayy13djt33dj-B3dj-93djs93djvV3d",
     "ju1XJdkY19dkXV9dkXR3dkXPX1dkXN9dkXL3djzB3dkX33dkX73dkWL3djxV3azXL3djxNc20qSe8EYE8XMK6XxSbKZ2gMQ0YsSdMXe0",
     "dSK0YvSX42I262YK2XaO8YQdIc9Y4dMKXMK6ap2iIk4h8Xa89dpzH3dpzB3dpz723dpxP3dpz73dpzJ3dpz13dpxTLdpyD3dpzL3dpzB",
     "3dpyT3dpzN3dpyV3dp+33dpzV9dp+L3dp+H3dp+F3dp+53dp+33dp+13dpwR3dps53dptP3dpwV23dp-H3dp-B23dpzP83dp-J23dpzT",
     "Ldp+D3dp-L3dp-B3dp+T3dp-N3dp+V23dp-V9dqWL3dqWH23dqW523dqW1X03dqXBK3dqXJ23dp-T23dqWD23dqWD3dqXL3dqXB23dqX",
     "N3dqWV23dqXV83dqYH23dqY523dqY123dpw523dp+V23dqZH3dqZB23dqXP83dqZJ3dqZ13dqXT3dqYD29dqYD3dqZL3dqZB3dqYT3dq",
     "ZN3dqYV23dqZV9dqaL3dqaH23dqa53dqa33dqa13dqWR23dpzP29dqbH3dqbB3dqb79dqZP3dqb73dqbJ3dqb13dqZT2FdqaD3dqbL3d",
     "qbB3dqaT3dqbN3dqaV3dqc33dqbV9dqcL3dqcH3dqcF3dqc53dqc33dqc1Q3dqdH3dqdB3dqd723dqbP3dqd73dqdJ3dqd13dqbT2Fdq",
     "cD3dqdL3dqdB3dqcT3dqdN3dqcV3dqe33dqdV9dqeL3dqeH3dqeF3dqe53dqe33dqe1fK6XoGe2KoIY4YK8YK2YK2cOXU42XGXC42XHX",
     "C42XIXC42XJXC42XKXC42XLXC42XMXC42XNXC42XOXC42XPXCO43X8Z1X943X8Z2X943X8Z3X943X8Z4X943X8Z5X943X8Z6X943X8Z7",
     "X943X8Z8X943X8Z9X943X8ZAX943X8ZBX943X8ZCX943X8ZDX943X8ZEX943X8ZFX943X8ZGX943X8ZHX943X8ZIX943X8ZJX943X8ZK",
     "X943X8ZLX943X8ZMX943X8ZNX943X8ZOX943X8ZPX943X8ZQX943iWKZJiWL3duiF3duhJ42Z3Z442ZNZQ0aPduiT42Z8ZM42ZDZM42Z",
     "JZ442ZJZJ43ZGZGZM42ZNZ3aM42ZDZ342ZDZ442ZDZIcC42Z4ZAb8gCaM42iZRiYB42ibJibJ3dWqPYA3cdy93chhJ3claB3dWqN3cnu",
     "F3cilL3bqZ53cikR3cnt73cb-H3cWlH3cce33clyT3cff13cmf13cccT3cmW53bwjT3b+m53botJ3cip73ck+N3cXn33cdv33cdj53co",
     "YH3coY13bm+13cgaB3cn-V3clZL3cdoF3bohV3cdzR3byh13bxxH3clYN3cXx93cboP3cboT3b+m93clyD3cke73bmkRK43iWKvvCiWL",
     "43iWKpm9iWL43iWKpqCiWL43iWKsy9iWL43iWKybPiWL43iWKuoJiWL43iWKzsNiWL43iWKqsTiWL43iWKvgNiWLX63cfhH3clc3YGUy",
     "ObuAKZ0EY8Es4KnKX0Y2K0YMY2KgAXCXMX0dAXCbE8Y2K6hGX-IY4YE8Y8EXMQgAX6YK8XSX0XGX6xC2n2XPdzxVcX0dwfQbSugMX0Xf",
     "E8XXu6YGXhv0YMZqEkk83gqy53gqyH3gqy13Zxk13gqg73gqbD3gqaL3gqW93gpuR3gpsV3gpo53gppN3hXsR3Zuz53gpi13gphL3gpg",
     "N3gpfJ3ZvlB3hXrJ3gpgP3gpeF3ZviL3gpdV3gpd73gqqP3gpcR3gpcB3XpZP3gpYF3gpXL3hXpV3go+93gozL3gowV3gowN3hXmT3go",
     "rR3gorP3goq53gooR9goo73gon73gok53gojN3goj73gohN3goh53goh33goh53goh73ZtWF3gZy93gocN3gobF3Zsj93goaR3goaH3g",
     "oZ93gnvR3goW93gn-B3gnzD3gnvR3gnqL3gnp33gnkV3gnk13gni13gni33gngR3gnfP3gnfB3gneF3gmp93gnaB3gmpB3gm-P3gmzL3",
     "gpaH3gls53gme73gmbT3gmaD3gmiJ3gmY73gmYB3glwN3Znt93glsF3gls73glrB3glq53glpN3gllP3ZmxF3ZmtD3gldB3glaF3glZP",
     "3gleP3gk-V3hWtH3hWsN3gks13gkoN3gkoP3Zlg73gkgJ3gkfB3gkeF3gkdP3ZkrH3gkd53gkcP3gio13gkb53hWl93gkXD3gkWJ3gjx",
     "H3gj+P3ZjfD3gjpH3ZjfD3gjmV3gjn73gjm79gjfV3hWb73gjeD3gjbP3gjaH3gjXR3hWYB3ZhmB3hWWR3gizL3gizH3gizD3giy73Xg",
     "lP3giv33ZgrV3Zgs13fxf33git33git53g-yT3ZYzT3YhhR3gipD3gioT3g-xF3gim33giiV3giiD3gigB3giXT3g-sD3g-uB3giWT3Z",
     "eyV3ghzR3ghrR3ghrL3ghrJ3ghrP3ghoV3ghnP3ghlJ3ghmH3ghlT3ghj13ghhR3ghhL3ghg33ghfF3ghbD3ghW73gg+33ggsD3ZcwN3",
     "ggtN3ggxR3ggr53ggpH3ggjH3ZciP3ggfP3gglL3ggnF3g-f73ggbJ3ggaB3ggYF3ggaT3g-bL3gftH3gfrP3ZahV3gfkF3gez73gfe7",
     "3g+x93gfZR3g+yF3g++P3gppV3gppR3gez73gfZH3fyYH3gwlR3gey13gexR3gexH3getP3geuH3ZYnJ3g+v93gek93gerL3geeT3geb",
     "P3ZYdB3gebB3geiB3gdz33g+qJ3gdwB3gdqB3gdlV3gda53ZXaH3gdX33g+jB3gcyR3ZWaH3gcvP3g+g73gcu13gcr99gcpL3Y-cJ3Zj",
     "+P3Y+-T3gcgN3Y+ZT3gcZP3gcYV3gcfD3gb+H3gby33gbuJ3gby13gbvJ3gbuN3gbtV3Yz+F3gbz53gbjH3gbfL3gzzD3gbZV3gba93Y",
     "zZN3gbn93gaw13Yyx33Yyu53gaqN3gajJ3galB3galJ3gztV3gaiP3gafL3gag33gacP3Zv-B3gZzD3YxhJ3gZu33Ywt73gZlF3gZkN3",
     "gZj33YvnL3gZg73gZeV3Yu-13Yun53gYwR3gYvR3gzdR3gYuB3gzd73gzd93gYkD3gYj53gYhT3gYgN3gYcF3gzXF3gYWV3YslT3gX-F",
     "3Ysg93gXyF3ZhvJ3gXoJ3YqvJ3Yqu73YqlH3gyq33gypD3gXaN3YqaR3YqaV3YqYJ3YqX19gXYD3gXYF3gW-R3gymV3gWxT3gym93gyh",
     "B3YooV3gWlV3gWi53gWe73gycR3YnoN3f--P3YnhJ3YneV3f-yD3f-sN3gyYH3f-nH3f-mV3f-mN3YlzV3YlhB3YlhD3f-d13gxrR3Yk",
     "xB3f+vN3f+vJ3gxpP3Ykk93f+f73gxiD3f+dV3f+eB3f+cJ3Yi+93f+WH3gxcN3fzwD3fzsP3fzoL3gxZP3YhqJ3YhoN3gxXL3YhfN3f",
     "y-N3YhZH3fy+53fytT3fyt93Ygg13YgbH3fynP3YfzB3fymT3ZZY13gwwN3fyiV3fydV3gwtH3fyaD3glj13YezV3Yez53ZY-B3ZY+R3",
     "fxuJ3fxuF3fq+T3gwo53fxlR3fxm93fxl73gpjT3fxk33fxk13fxjF3fxgV3YdbL3fxh53fxdN3fxZD3fw+R3fxdH3fwzV3fwxD3fwqF",
     "3fxaP3fwzD3fwzB3fwyD3YcsR3YcZJ3Ycj13gwdN3fwhD3fwhB3fwf73YY+13fwaF3Ybe13gwb13gwaR3Ya-T3YajT3gwaD3fvs53fvr",
     "F3fvqR3fvqP3fvmR3fvoV3fvgL3fvjF3fva33fvf73fvb33fvZF3gv+F3fuzT3fuxV3gvyH3fus53fus13YXrR3fukT3fukH3gvv53fu",
     "iT3hYmT3YWnP3YWcB3gvmT3gvmD3ftoT3ftk53ftaD3fstP3X+oL3fsoH3fsn73fshL3fsbV3XzgH3Zuz93fsWT3fsXT3fr+N3ZulT3f",
     "rmJ3frgD3XwWR3Xv-73fqqR3fql33fqj53XvhD3fqiL3fpwT9fpn13fpsR3fo-33fozD3Xs-53foc53gubJ3foZH3XsdJ3guWN3fnoV3",
     "gka33fnj33Xqh13XpzP3gtuJ3gtu53fnXJ3Xo-13gtqJ3XosD3fm-53fm-73fmzD3XoaL3fmnV3gtiV3fmjL3fmbR3fma73fmWH3gtZJ",
     "3XljH3fllF3fkyL3fkmT3gspT3gso13fkgF3Xiq33gsnH3XimP3XiW93Xhu53fjrJ3gshV3fjnR3fjnJ3fjn73fjmL3fjm93fjk13XgX",
     "Pew8yzSQunQaYh+SXiRXZzYS"]

inductive Action where
  | keep
  | drop
  | refuse
  | shift (distance : Int)
  | replace (chars : List Nat)

/-- What becomes of the characters up to one that is the last of them. -/
structure Rule where
  last : Nat
  action : Action

private def alternating (next : Nat) : Nat → List Rule
  | 0 => []
  | count + 1 => ⟨next, .shift 1⟩ :: ⟨next + 1, .keep⟩ :: alternating (next + 2) count

private def rulesFrom (fuel next : Nat) (ns : List Nat) : List Rule :=
  match fuel, ns with
  | fuel + 1, head :: rest =>
    let last := next + head / 6
    match head % 6, rest with
    | 0, rest => ⟨last, .keep⟩ :: rulesFrom fuel (last + 1) rest
    | 1, rest => ⟨last, .drop⟩ :: rulesFrom fuel (last + 1) rest
    | 2, rest => ⟨last, .refuse⟩ :: rulesFrom fuel (last + 1) rest
    | 3, distance :: rest => ⟨last, .shift (signed distance)⟩ :: rulesFrom fuel (last + 1) rest
    | 4, count :: rest => ⟨last, .replace (rest.take count)⟩ :: rulesFrom fuel (last + 1) (rest.drop count)
    | _, rest => alternating next (head / 6 + 1) ++ rulesFrom fuel (next + 2 * (head / 6 + 1)) rest
  | _, _ => []

/-- The rules for all characters in their order. -/
def rules : List Rule :=
  let ns := numbers data
  rulesFrom ns.length 0 ns

def actionOf (n : Nat) : Action := ((rules.find? fun r => n ≤ r.last).map Rule.action).getD .refuse

/-- What stands in the place of a character, if it may stand in a name. -/
def replacement? (c : Char) : Option (List Char) :=
  match actionOf c.toNat with
  | .keep => some [c]
  | .drop => some []
  | .refuse => none
  | .shift distance => some [Char.ofNat (Int.ofNat c.toNat + distance).toNat]
  | .replace chars => some (chars.map Char.ofNat)

/-- Whether a character stays as it is. -/
def isKept (c : Char) : Bool :=
  match actionOf c.toNat with
  | .keep => true
  | _ => false

end YamlSchema.Text.Unicode.HostMapping
