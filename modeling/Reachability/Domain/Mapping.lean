import Reachability.Text.CodeTable

/-!
# Mapping of domain names

What becomes of the characters from U+0080 on when a domain name is brought into its
canonical spelling, as Unicode Technical Standard 46 lays it down for Unicode 17: most
stay as they are and have no row here, some are left out, some are replaced, and some
may not occur.
-/
namespace Reachability.Domain

inductive Mapping
  /-- May not occur. -/
  | disallowed
  /-- Replaced by some characters, or left out where there are none. -/
  | replaced (by_ : List Char)
  /-- Replaced by the character so many code points further on. -/
  | raised (distance : Nat)
  /-- Replaced by the character so many code points before. -/
  | lowered (distance : Nat)
  /-- The first of the range and every other one after it are replaced by their successors. -/
  | alternating
deriving Inhabited

namespace Mapping

/-- Reads the value of a row: nothing, `=x,y`, `+n`, `~n` or `^`. -/
def ofChars : List Char → Mapping
  | '=' :: [] => .replaced []
  | '=' :: cs =>
    .replaced (((String.ofList cs).splitOn ",").map fun s =>
      Char.ofNat (Hexadecimal.value s.toList))
  | '+' :: cs => .raised (Hexadecimal.value cs)
  | '~' :: cs => .lowered (Hexadecimal.value cs)
  | '^' :: _ => .alternating
  | _ => .disallowed

def table : Text.CodeTable Mapping := .ofLines ofChars [
  "80-9f a0~80 a8=20,308 aa~49 ad= af=20,304 b2-b3~80 b4=20,301 b5+307 b8=20,327 b9~88 ba~4b",
  "bc=31,2044,34 bd=31,2044,32 be=33,2044,34 c0-d6+20 d8-de+20 100-12e^ 130=69,307",
  "132-133=69,6a 134-136^ 139-13d^ 13f-140=6c,b7 141-147^ 149=2bc,6e 14a-176^ 178~79 179-17d^",
  "17f~10c 181+d2 182-184^ 186+ce 187+1 189-18a+cd 18b+1 18e+4f 18f+ca 190+cb 191+1 193+cd",
  "194+cf 196+d3 197+d1 198+1 19c+d3 19d+d5 19f+d6 1a0-1a4^ 1a6+da 1a7+1 1a9+da 1ac+1 1ae+da",
  "1af+1 1b1-1b2+d9 1b3-1b5^ 1b7+db 1b8+1 1bc+1 1c4-1c6=64,17e 1c7-1c9=6c,6a 1ca-1cc=6e,6a",
  "1cd-1db^ 1de-1ee^ 1f1-1f3=64,7a 1f4+1 1f6~61 1f7~38 1f8-21e^ 220~82 222-232^ 23a+2a2b 23b+1",
  "23d~a3 23e+2a28 241+1 243~c3 244+45 245+47 246-24e^ 2b0~248 2b1~4b 2b2~248 2b3~241 2b4~3b",
  "2b5~3a 2b6~35 2b7~240 2b8~23f 2d8=20,306 2d9=20,307 2da=20,30a 2db=20,328 2dc=20,303",
  "2dd=20,30b 2e0~7d 2e1~275 2e2~26f 2e3~26b 2e4~4f 340-341~40 343~30 344=308,301 345+74 34f=",
  "370-372^ 374~bb 376+1 378-379 37a=20,3b9 37e~343 37f+74 380-383 384=20,301 385=20,308,301",
  "386+26 387~2d0 388-38a+25 38b 38c+40 38d 38e-38f+3f 391-3a1+20 3a2 3a3-3ab+20 3cf+8 3d0~1e",
  "3d1~19 3d2~d 3d3~6 3d4~9 3d5~f 3d6~16 3d8-3ee^ 3f0~36 3f1~30 3f2~2f 3f4~3c 3f5~40 3f7+1",
  "3f9~36 3fa+1 3fd-3ff~82 400-40f+50 410-42f+20 460-480^ 48a-4be^ 4c0+f 4c1-4cd^ 4d0-52e^ 530",
  "531-556+30 557-558 587=565,582 58b-58c 590 5c8-5cf 5eb-5ee 5f5-605 61c 675=627,674",
  "676=648,674 677=6c7,674 678=64a,674 6dd 70e-70f 74b-74c 7b2-7bf 7fb-7fc 82e-82f 83f 85c-85d",
  "85f 86b-86f 890-896 8e2 958=915,93c 959=916,93c 95a=917,93c 95b=91c,93c 95c=921,93c",
  "95d=922,93c 95e=92b,93c 95f=92f,93c 984 98d-98e 991-992 9a9 9b1 9b3-9b5 9ba-9bb 9c5-9c6",
  "9c9-9ca 9cf-9d6 9d8-9db 9dc=9a1,9bc 9dd=9a2,9bc 9de 9df=9af,9bc 9e4-9e5 9ff-a00 a04 a0b-a0e",
  "a11-a12 a29 a31 a33=a32,a3c a34 a36=a38,a3c a37 a3a-a3b a3d a43-a46 a49-a4a a4e-a50 a52-a58",
  "a59=a16,a3c a5a=a17,a3c a5b=a1c,a3c a5d a5e=a2b,a3c a5f-a65 a77-a80 a84 a8e a92 aa9 ab1 ab4",
  "aba-abb ac6 aca ace-acf ad1-adf ae4-ae5 af2-af8 b00 b04 b0d-b0e b11-b12 b29 b31 b34 b3a-b3b",
  "b45-b46 b49-b4a b4e-b54 b58-b5b b5c=b21,b3c b5d=b22,b3c b5e b64-b65 b78-b81 b84 b8b-b8d b91",
  "b96-b98 b9b b9d ba0-ba2 ba5-ba7 bab-bad bba-bbd bc3-bc5 bc9 bce-bcf bd1-bd6 bd8-be5 bfb-bff",
  "c0d c11 c29 c3a-c3b c45 c49 c4e-c54 c57 c5b c5e-c5f c64-c65 c70-c76 c8d c91 ca9 cb4 cba-cbb",
  "cc5 cc9 cce-cd4 cd7-cdb cdf ce4-ce5 cf0 cf4-cff d0d d11 d45 d49 d50-d53 d64-d65 d80 d84",
  "d97-d99 db2 dbc dbe-dbf dc7-dc9 dcb-dce dd5 dd7 de0-de5 df0-df1 df5-e00 e33=e4d,e32 e3b-e3e",
  "e5c-e80 e83 e85 e8b ea4 ea6 eb3=ecd,eb2 ebe-ebf ec5 ec7 ecf eda-edb edc=eab,e99 edd=eab,ea1",
  "ee0-eff f0c~1 f43=f42,fb7 f48 f4d=f4c,fb7 f52=f51,fb7 f57=f56,fb7 f5c=f5b,fb7 f69=f40,fb5",
  "f6d-f70 f73=f71,f72 f75=f71,f74 f76=fb2,f80 f77=fb2,f71,f80 f78=fb3,f80 f79=fb3,f71,f80",
  "f81=f71,f80 f93=f92,fb7 f98 f9d=f9c,fb7 fa2=fa1,fb7 fa7=fa6,fb7 fac=fab,fb7 fb9=f90,fb5 fbd",
  "fcd fdb-fff 10a0-10c5+1c60 10c6 10c7+1c60 10c8-10cc 10cd+1c60 10ce-10cf 10fc~20 115f-1160=",
  "1249 124e-124f 1257 1259 125e-125f 1289 128e-128f 12b1 12b6-12b7 12bf 12c1 12c6-12c7 12d7",
  "1311 1316-1317 135b-135c 137d-137f 139a-139f 13f6-13f7 13f8-13fd~8 13fe-13ff 1680 169d-169f",
  "16f9-16ff 1716-171e 1737-173f 1754-175f 176d 1771 1774-177f 17b4-17b5= 17de-17df 17ea-17ef",
  "17fa-17ff 180b-180f= 181a-181f 1879-187f 18ab-18af 18f6-18ff 191f 192c-192f 193c-193f",
  "1941-1943 196e-196f 1975-197f 19ac-19af 19ca-19cf 19db-19dd 1a1c-1a1d 1a5f 1a7d-1a7e",
  "1a8a-1a8f 1a9a-1a9f 1aae-1aaf 1ade-1adf 1aec-1aff 1b4d 1bf4-1bfb 1c38-1c3a 1c4a-1c4c",
  "1c80~184e 1c81~184d 1c82~1844 1c83-1c84~1842 1c85~1843 1c86~183c 1c87~1824 1c88+89c3 1c89+1",
  "1c8b-1c8f 1c90-1cba~bc0 1cbb-1cbc 1cbd-1cbf~bc0 1cc8-1ccf 1cfb-1cff 1d2c~1ccb 1d2d~1c47",
  "1d2e~1ccc 1d30~1ccc 1d31~1ccc 1d32~1b55 1d33-1d3a~1ccc 1d3c~1ccd 1d3d~1b1a 1d3e~1cce",
  "1d3f~1ccd 1d40-1d41~1ccc 1d42~1ccb 1d43~1ce2 1d44-1d45~1af4 1d46~44 1d47~1ce5 1d48-1d49~1ce4",
  "1d4a~1af1 1d4b-1d4c~1af0 1d4d~1ce6 1d4f~1ce4 1d50~1ce3 1d51~1c06 1d52~1ce3 1d53~1aff",
  "1d54-1d55~3e 1d56~1ce6 1d57-1d58~1ce3 1d59~3c 1d5a~1aeb 1d5b~1ce5 1d5c~37 1d5d-1d5f~19ab",
  "1d60-1d61~199a 1d62~1cf9 1d63~1cf1 1d64-1d65~1cef 1d66-1d67~19b4 1d68~19a7 1d69-1d6a~19a3",
  "1d78~193b 1d9b~1b49 1d9c~1d39 1d9d~1b48 1d9e~1cae 1d9f~1b43 1da0~1d3a 1da1~1b42 1da2~1b41",
  "1da3~1b3e 1da4-1da6~1b3c 1da7~2c 1da8~1b0b 1da9~1b3c 1daa~25 1dab~1b0c 1dac~1b3b 1dad~1b3d",
  "1dae-1db1~1b3c 1db2~1b3a 1db3-1db4~1b31 1db5~1c0a 1db6-1db7~1b2d 1db8~9c 1db9-1dba~1b2e",
  "1dbb~1d41 1dbc-1dbe~1b2c 1dbf~1a07 1e00-1e94^ 1e9a=61,2be 1e9b~3a 1e9e~1dbf 1ea0-1efe^",
  "1f08-1f0f~8 1f16-1f17 1f18-1f1d~8 1f1e-1f1f 1f28-1f2f~8 1f38-1f3f~8 1f46-1f47 1f48-1f4d~8",
  "1f4e-1f4f 1f58 1f59~8 1f5a 1f5b~8 1f5c 1f5d~8 1f5e 1f5f~8 1f68-1f6f~8 1f71~1bc5 1f73~1bc6",
  "1f75~1bc7 1f77~1bc8 1f79~1bad 1f7b~1bae 1f7d~1baf 1f7e-1f7f 1f80=1f00,3b9 1f81=1f01,3b9",
  "1f82=1f02,3b9 1f83=1f03,3b9 1f84=1f04,3b9 1f85=1f05,3b9 1f86=1f06,3b9 1f87=1f07,3b9",
  "1f88=1f00,3b9 1f89=1f01,3b9 1f8a=1f02,3b9 1f8b=1f03,3b9 1f8c=1f04,3b9 1f8d=1f05,3b9",
  "1f8e=1f06,3b9 1f8f=1f07,3b9 1f90=1f20,3b9 1f91=1f21,3b9 1f92=1f22,3b9 1f93=1f23,3b9",
  "1f94=1f24,3b9 1f95=1f25,3b9 1f96=1f26,3b9 1f97=1f27,3b9 1f98=1f20,3b9 1f99=1f21,3b9",
  "1f9a=1f22,3b9 1f9b=1f23,3b9 1f9c=1f24,3b9 1f9d=1f25,3b9 1f9e=1f26,3b9 1f9f=1f27,3b9",
  "1fa0=1f60,3b9 1fa1=1f61,3b9 1fa2=1f62,3b9 1fa3=1f63,3b9 1fa4=1f64,3b9 1fa5=1f65,3b9",
  "1fa6=1f66,3b9 1fa7=1f67,3b9 1fa8=1f60,3b9 1fa9=1f61,3b9 1faa=1f62,3b9 1fab=1f63,3b9",
  "1fac=1f64,3b9 1fad=1f65,3b9 1fae=1f66,3b9 1faf=1f67,3b9 1fb2=1f70,3b9 1fb3=3b1,3b9",
  "1fb4=3ac,3b9 1fb5 1fb7=1fb6,3b9 1fb8-1fb9~8 1fba~4a 1fbb~1c0f 1fbc=3b1,3b9 1fbd=20,313",
  "1fbe~1c05 1fbf=20,313 1fc0=20,342 1fc1=20,308,342 1fc2=1f74,3b9 1fc3=3b7,3b9 1fc4=3ae,3b9",
  "1fc5 1fc7=1fc6,3b9 1fc8~56 1fc9~1c1c 1fca~56 1fcb~1c1d 1fcc=3b7,3b9 1fcd=20,313,300",
  "1fce=20,313,301 1fcf=20,313,342 1fd3~1c43 1fd4-1fd5 1fd8-1fd9~8 1fda~64 1fdb~1c2c 1fdc",
  "1fdd=20,314,300 1fde=20,314,301 1fdf=20,314,342 1fe3~1c33 1fe8-1fe9~8 1fea~70 1feb~1c1e",
  "1fec~7 1fed=20,308,300 1fee=20,308,301 1fef~1f8f 1ff0-1ff1 1ff2=1f7c,3b9 1ff3=3c9,3b9",
  "1ff4=3ce,3b9 1ff5 1ff7=1ff6,3b9 1ff8~80 1ff9~1c2d 1ffa~7e 1ffb~1c2d 1ffc=3c9,3b9 1ffd=20,301",
  "1ffe=20,314 1fff 2000-200a=20 200b= 200e-200f 2011~1 2017=20,333 2024-2026 2028-202e",
  "202f~200f 2033=2032,2032 2034=2032,2032,2032 2036=2035,2035 2037=2035,2035,2035 203c=21,21",
  "203e=20,305 2047=3f,3f 2048=3f,21 2049=21,3f 2057=2032,2032,2032,2032 205f~203f 2060-2064=",
  "2065-2069 206a-206f= 2070~2040 2071~2008 2072-2073 2074-2079~2040 207a~204f 207b+197",
  "207c~203f 207d-207e~2055 207f~2011 2080-2089~2050 208a~205f 208b+187 208c~204f",
  "208d-208e~2065 208f 2090~202f 2091~202c 2092~2023 2093~201b 2094~1e3b 2095~202d",
  "2096-2099~202b 209a~202a 209b-209c~2028 209d-209f 20a8=72,73 20c2-20cf 20f1-20ff",
  "2100=61,2f,63 2101=61,2f,73 2102~209f 2103=b0,63 2105=63,2f,6f 2106=63,2f,75 2107~1eac",
  "2109=b0,66 210a-210b~20a3 210c-210e=68 210f~1fe8 2110-2111=69 2112-2113=6c 2115~20a7",
  "2116=6e,6f 2119-211b~20a9 211c-211d=72 2120=73,6d 2121=74,65,6c 2122=74,6d 2124~20aa",
  "2126~1d5d 2128~20ae 212a~20bf 212b~2046 212c-212d~20ca 212f-2130=65 2131~20cb 2132+1c",
  "2133~20c6 2134~20c5 2135-2138~1b65 2139~20d0 213b=66,61,78 213c~1d7c 213d-213e=3b3 213f~1d7f",
  "2140+d1 2145-2146=64 2147~20e2 2148-2149~20df 2150=31,2044,37 2151=31,2044,39",
  "2152=31,2044,31,30 2153=31,2044,33 2154=32,2044,33 2155=31,2044,35 2156=32,2044,35",
  "2157=33,2044,35 2158=34,2044,35 2159=31,2044,36 215a=35,2044,36 215b=31,2044,38",
  "215c=33,2044,38 215d=35,2044,38 215e=37,2044,38 215f=31,2044 2160~20f7 2161=69,69",
  "2162=69,69,69 2163=69,76 2164~20ee 2165=76,69 2166=76,69,69 2167=76,69,69,69 2168=69,78",
  "2169~20f1 216a=78,69 216b=78,69,69 216c~2100 216d-216e~210a 216f~2102 2170~2107 2171=69,69",
  "2172=69,69,69 2173=69,76 2174~20fe 2175=76,69 2176=76,69,69 2177=76,69,69,69 2178=69,78",
  "2179~2101 217a=78,69 217b=78,69,69 217c~2110 217d-217e~211a 217f~2112 2183+1 2189=30,2044,33",
  "218c-218f 222c=222b,222b 222d=222b,222b,222b 222f=222e,222e 2230=222e,222e,222e",
  "2329-232a+cdf 242a-243f 244b-245f 2460-2468~242f 2469=31,30 246a=31,31 246b=31,32 246c=31,33",
  "246d=31,34 246e=31,35 246f=31,36 2470=31,37 2471=31,38 2472=31,39 2473=32,30 2474=28,31,29",
  "2475=28,32,29 2476=28,33,29 2477=28,34,29 2478=28,35,29 2479=28,36,29 247a=28,37,29",
  "247b=28,38,29 247c=28,39,29 247d=28,31,30,29 247e=28,31,31,29 247f=28,31,32,29",
  "2480=28,31,33,29 2481=28,31,34,29 2482=28,31,35,29 2483=28,31,36,29 2484=28,31,37,29",
  "2485=28,31,38,29 2486=28,31,39,29 2487=28,32,30,29 2488-249b 249c=28,61,29 249d=28,62,29",
  "249e=28,63,29 249f=28,64,29 24a0=28,65,29 24a1=28,66,29 24a2=28,67,29 24a3=28,68,29",
  "24a4=28,69,29 24a5=28,6a,29 24a6=28,6b,29 24a7=28,6c,29 24a8=28,6d,29 24a9=28,6e,29",
  "24aa=28,6f,29 24ab=28,70,29 24ac=28,71,29 24ad=28,72,29 24ae=28,73,29 24af=28,74,29",
  "24b0=28,75,29 24b1=28,76,29 24b2=28,77,29 24b3=28,78,29 24b4=28,79,29 24b5=28,7a,29",
  "24b6-24cf~2455 24d0-24e9~246f 24ea~24ba 2a0c=222b,222b,222b,222b 2a74=3a,3a,3d 2a75=3d,3d",
  "2a76=3d,3d,3d 2adc=2add,338 2b74-2b75 2c00-2c2f+30 2c60+1 2c62~29f7 2c63~ee6 2c64~29e7",
  "2c67-2c6b^ 2c6d~2a1c 2c6e~29fd 2c6f~2a1f 2c70~2a1e 2c72+1 2c75+1 2c7c~2c12 2c7d~2c07",
  "2c7e-2c7f~2a3f 2c80-2ce2^ 2ceb-2ced^ 2cf2+1 2cf4-2cf8 2d26 2d28-2d2c 2d2e-2d2f 2d68-2d6e",
  "2d6f~e 2d71-2d7e 2d97-2d9f 2da7 2daf 2db7 2dbf 2dc7 2dcf 2dd7 2ddf 2e5e-2e7f 2e9a 2e9f+3d2e",
  "2ef3+70ac 2ef4-2eff 2f00+1f00 2f01+1f27 2f02+1f34 2f03+1f3c 2f04+1f55 2f05+1f80 2f06+1f86",
  "2f07+1f99 2f08+1fb2 2f09+2236 2f0a+225b 2f0b+2260 2f0c+2276 2f0d+2289 2f0e+229d 2f0f+22d1",
  "2f10+22e5 2f11+22ef 2f12+2389 2f13+23e6 2f14+2401 2f15+2405 2f16+2422 2f17+242a 2f18+2444",
  "2f19+2450 2f1a+2468 2f1b+249b 2f1c+24ac 2f1d+24c6 2f1e+27b9 2f1f+2800 2f20+29cb 2f21+29e1",
  "2f22+29e8 2f23+29f2 2f24+2a03 2f25+2a4e 2f26+2c2a 2f27+2c59 2f28+2cd0 2f29+2ce6 2f2a+2cf8",
  "2f2b+2d0d 2f2c+2d42 2f2d+2d44 2f2e+2ead 2f2f+2eb6 2f30+2ec1 2f31+2ecd 2f32+2f40 2f33+2f47",
  "2f34+2f4b 2f35+2fbf 2f36+2fc8 2f37+2fd4 2f38+2fdb 2f39+3017 2f3a+3027 2f3b+3038 2f3c+3087",
  "2f3d+32cb 2f3e+32f8 2f3f+330c 2f40+35ef 2f41+35f3 2f42+3645 2f43+3654 2f44+3660 2f45+3674",
  "2f46+369a 2f47+369e 2f48+37a8 2f49+37bf 2f4a+37de 2f4b+3bd5 2f4c+3c16 2f4d+3c2c 2f4e+3c65",
  "2f4f+3c7c 2f50+3c84 2f51+3c8a 2f52+3cbd 2f53+3cc1 2f54+3ce0 2f55+4116 2f56+42d4 2f57+42df",
  "2f58+42e3 2f59+42e6 2f5a+42ed 2f5b+42fe 2f5c+42ff 2f5d+434f 2f5e+4426 2f5f+442a 2f60+457c",
  "2f61+4585 2f62+45b6 2f63+45bc 2f64+45c4 2f65+45cb 2f66+4625 2f67+462b 2f68+470e 2f69+4714",
  "2f6a+4744 2f6b+4754 2f6c+4782 2f6d+486e 2f6e+4874 2f6f+4884 2f70+49ca 2f71+4a47 2f72+4a4c",
  "2f73+4b01 2f74+4b57 2f75+4b84 2f76+4cfd 2f77+4d81 2f78+4fbe 2f79+4fd8 2f7a+5010 2f7b+5042",
  "2f7c+5085 2f7d+508f 2f7e+5094 2f7f+50b4 2f80+50ff 2f81+5108 2f82+5261 2f83+5267 2f84+526f",
  "2f85+5277 2f86+5286 2f87+5294 2f88+5297 2f89+52e5 2f8a+52e8 2f8b+52ed 2f8c+56c1 2f8d+56de",
  "2f8e+58b2 2f8f+58bd 2f90+58d3 2f91+59ed 2f92+59f9 2f93+5a3f 2f94+5a6c 2f95+5ca2 2f96+5cb0",
  "2f97+5cbe 2f98+5ce0 2f99+5d04 2f9a+5dca 2f9b+5dd5 2f9c+5e17 2f9d+5f0e 2f9e+5f2c 2f9f+5ffc",
  "2fa0+6010 2fa1+6014 2fa2+60ef 2fa3+61a6 2fa4+6222 2fa5+6227 2fa6+622b 2fa7+65d0 2fa8+65d8",
  "2fa9+6673 2faa+670c 2fab+670e 2fac+673c 2fad+67a4 2fae+67b0 2faf+67b3 2fb0+67b9 2fb1+681a",
  "2fb2+683b 2fb3+6840 2fb4+684d 2fb5+68f3 2fb6+6925 2fb7+6928 2fb8+69de 2fb9+69e0 2fba+69f2",
  "2fbb+6aed 2fbc+6b1c 2fbd+6b22 2fbe+6b67 2fbf+6b70 2fc0+6b72 2fc1+6b7b 2fc2+6b98 2fc3+6d22",
  "2fc4+6eb1 2fc5+6eba 2fc6+6edf 2fc7+6ef4 2fc8+6efb 2fc9+6f04 2fca+6f07 2fcb+6f2e 2fcc+6f31",
  "2fcd+6f41 2fce+6f45 2fcf+6f51 2fd0+6f6b 2fd1+6f79 2fd2+6f80 2fd3+6fba 2fd4+6fc8 2fd5+6fcb",
  "2fd6-2fff 3000~2fe0 3002~2fd4 3036~24 3038+2309 3039-303a+230b 3040 3097-3098 309b=20,3099",
  "309c=20,309a 309f=3088,308a 30ff=30b3,30c8 3100-3104 3130 3131-3132~2031 3133~1f89 3134~2032",
  "3135-3136~1f89 3137-3139~2034 313a-313f~1f8a 3140~2026 3141-3143~203b 3144~2023",
  "3145-314e~203c 314f-3163~1fee 3164= 3165-3166~2051 3167-3168~1fa0 3169~1f9d 316a~1f9c",
  "316b~1f98 316c~1f95 316d~1f94 316e~2052 316f~1f92 3170~1f91 3171-3172~2054 3173~2053",
  "3174-3175~2052 3176~204f 3177~204e 3178-317c~204d 317d~204b 317e~2048 317f~203f 3180~2039",
  "3181~2035 3182-3183~1f91 3184-3186~202d 3187-3188~2003 3189~2001 318a-318b~1ff9 318c~1ff8",
  "318d~1fef 318e~1fed 318f 3192+1c6e 3193+1cf9 3194+1c75 3195+2546 3196+1c74 3197+1c96",
  "3198+1c73 3199+4399 319a+1cbf 319b+1c7e 319c+1c65 319d+278c 319e+2592 319f+1d1b 31e6-31ef",
  "3200=28,1100,29 3201=28,1102,29 3202=28,1103,29 3203=28,1105,29 3204=28,1106,29",
  "3205=28,1107,29 3206=28,1109,29 3207=28,110b,29 3208=28,110c,29 3209=28,110e,29",
  "320a=28,110f,29 320b=28,1110,29 320c=28,1111,29 320d=28,1112,29 320e=28,ac00,29",
  "320f=28,b098,29 3210=28,b2e4,29 3211=28,b77c,29 3212=28,b9c8,29 3213=28,bc14,29",
  "3214=28,c0ac,29 3215=28,c544,29 3216=28,c790,29 3217=28,cc28,29 3218=28,ce74,29",
  "3219=28,d0c0,29 321a=28,d30c,29 321b=28,d558,29 321c=28,c8fc,29 321d=28,c624,c804,29",
  "321e=28,c624,d6c4,29 321f 3220=28,4e00,29 3221=28,4e8c,29 3222=28,4e09,29 3223=28,56db,29",
  "3224=28,4e94,29 3225=28,516d,29 3226=28,4e03,29 3227=28,516b,29 3228=28,4e5d,29",
  "3229=28,5341,29 322a=28,6708,29 322b=28,706b,29 322c=28,6c34,29 322d=28,6728,29",
  "322e=28,91d1,29 322f=28,571f,29 3230=28,65e5,29 3231=28,682a,29 3232=28,6709,29",
  "3233=28,793e,29 3234=28,540d,29 3235=28,7279,29 3236=28,8ca1,29 3237=28,795d,29",
  "3238=28,52b4,29 3239=28,4ee3,29 323a=28,547c,29 323b=28,5b66,29 323c=28,76e3,29",
  "323d=28,4f01,29 323e=28,8cc7,29 323f=28,5354,29 3240=28,796d,29 3241=28,4f11,29",
  "3242=28,81ea,29 3243=28,81f3,29 3244+230b 3245+2c37 3246+3341 3247+4948 3250=70,74,65",
  "3251=32,31 3252=32,32 3253=32,33 3254=32,34 3255=32,35 3256=32,36 3257=32,37 3258=32,38",
  "3259=32,39 325a=33,30 325b=33,31 325c=33,32 325d=33,33 325e=33,34 325f=33,35 3260~2160",
  "3261-3262~215f 3263-3265~215e 3266~215d 3267-3268~215c 3269-326d~215b 326e+7992 326f+7e29",
  "3270+8074 3271+850b 3272+8756 3273+89a1 3274+8e38 3275+92cf 3276+951a 3277+99b1 3278+9bfc",
  "3279+9e47 327a+a092 327b+a2dd 327c=cc38,ace0 327d=c8fc,c758 327e+9432 3280+1b80 3281+1c0b",
  "3282+1b87 3283+2458 3284+1c10 3285+1ee8 3286+1b7d 3287+1ee4 3288+1bd5 3289+20b8 328a+347e",
  "328b+3de0 328c+39a8 328d+349b 328e+5f43 328f+2490 3290+3355 3291+3599 3292+3477 3293+46ab",
  "3294+2179 3295+3fe4 3296+5a0b 3297+46c6 3298+201c 3299+473f 329a+429d 329b+26d8 329c+5dcd",
  "329d+1e8d 329e+20d2 329f+3a49 32a0+6565 32a1+1c70 32a2+1ef7 32a3+38c0 32a4+1b66 32a5+1b88",
  "32a6+1b65 32a7+2b3f 32a8+214b 32a9+2092 32aa+28ed 32ab+28bb 32ac+4437 32ad+1c54 32ae+5a19",
  "32af+20a5 32b0+266c 32b1=33,36 32b2=33,37 32b3=33,38 32b4=33,39 32b5=34,30 32b6=34,31",
  "32b7=34,32 32b8=34,33 32b9=34,34 32ba=34,35 32bb=34,36 32bc=34,37 32bd=34,38 32be=34,39",
  "32bf=35,30 32c0=31,6708 32c1=32,6708 32c2=33,6708 32c3=34,6708 32c4=35,6708 32c5=36,6708",
  "32c6=37,6708 32c7=38,6708 32c8=39,6708 32c9=31,30,6708 32ca=31,31,6708 32cb=31,32,6708",
  "32cc=68,67 32cd=65,72,67 32ce=65,76 32cf=6c,74,64 32d0~22e 32d1~22d 32d2~22c 32d3~22b",
  "32d4-32d5~22a 32d6~229 32d7~228 32d8~227 32d9~226 32da~225 32db~224 32dc~223 32dd~222",
  "32de~221 32df~220 32e0~21f 32e1~21d 32e2~21c 32e3~21b 32e4-32e9~21a 32ea~218 32eb~216",
  "32ec~214 32ed~212 32ee-32f2~210 32f3~20f 32f4~20e 32f5-32fa~20d 32fb-32fe~20c 32ff=4ee4,548c",
  "3300=30a2,30d1,30fc,30c8 3301=30a2,30eb,30d5,30a1 3302=30a2,30f3,30da,30a2",
  "3303=30a2,30fc,30eb 3304=30a4,30cb,30f3,30b0 3305=30a4,30f3,30c1 3306=30a6,30a9,30f3",
  "3307=30a8,30b9,30af,30fc,30c9 3308=30a8,30fc,30ab,30fc 3309=30aa,30f3,30b9",
  "330a=30aa,30fc,30e0 330b=30ab,30a4,30ea 330c=30ab,30e9,30c3,30c8 330d=30ab,30ed,30ea,30fc",
  "330e=30ac,30ed,30f3 330f=30ac,30f3,30de 3310=30ae,30ac 3311=30ae,30cb,30fc",
  "3312=30ad,30e5,30ea,30fc 3313=30ae,30eb,30c0,30fc 3314=30ad,30ed",
  "3315=30ad,30ed,30b0,30e9,30e0 3316=30ad,30ed,30e1,30fc,30c8,30eb",
  "3317=30ad,30ed,30ef,30c3,30c8 3318=30b0,30e9,30e0 3319=30b0,30e9,30e0,30c8,30f3",
  "331a=30af,30eb,30bc,30a4,30ed 331b=30af,30ed,30fc,30cd 331c=30b1,30fc,30b9",
  "331d=30b3,30eb,30ca 331e=30b3,30fc,30dd 331f=30b5,30a4,30af,30eb",
  "3320=30b5,30f3,30c1,30fc,30e0 3321=30b7,30ea,30f3,30b0 3322=30bb,30f3,30c1",
  "3323=30bb,30f3,30c8 3324=30c0,30fc,30b9 3325=30c7,30b7 3326=30c9,30eb 3327=30c8,30f3",
  "3328=30ca,30ce 3329=30ce,30c3,30c8 332a=30cf,30a4,30c4 332b=30d1,30fc,30bb,30f3,30c8",
  "332c=30d1,30fc,30c4 332d=30d0,30fc,30ec,30eb 332e=30d4,30a2,30b9,30c8,30eb",
  "332f=30d4,30af,30eb 3330=30d4,30b3 3331=30d3,30eb 3332=30d5,30a1,30e9,30c3,30c9",
  "3333=30d5,30a3,30fc,30c8 3334=30d6,30c3,30b7,30a7,30eb 3335=30d5,30e9,30f3",
  "3336=30d8,30af,30bf,30fc,30eb 3337=30da,30bd 3338=30da,30cb,30d2 3339=30d8,30eb,30c4",
  "333a=30da,30f3,30b9 333b=30da,30fc,30b8 333c=30d9,30fc,30bf 333d=30dd,30a4,30f3,30c8",
  "333e=30dc,30eb,30c8 333f=30db,30f3 3340=30dd,30f3,30c9 3341=30db,30fc,30eb",
  "3342=30db,30fc,30f3 3343=30de,30a4,30af,30ed 3344=30de,30a4,30eb 3345=30de,30c3,30cf",
  "3346=30de,30eb,30af 3347=30de,30f3,30b7,30e7,30f3 3348=30df,30af,30ed,30f3 3349=30df,30ea",
  "334a=30df,30ea,30d0,30fc,30eb 334b=30e1,30ac 334c=30e1,30ac,30c8,30f3",
  "334d=30e1,30fc,30c8,30eb 334e=30e4,30fc,30c9 334f=30e4,30fc,30eb 3350=30e6,30a2,30f3",
  "3351=30ea,30c3,30c8,30eb 3352=30ea,30e9 3353=30eb,30d4,30fc 3354=30eb,30fc,30d6,30eb",
  "3355=30ec,30e0 3356=30ec,30f3,30c8,30b2,30f3 3357=30ef,30c3,30c8 3358=30,70b9 3359=31,70b9",
  "335a=32,70b9 335b=33,70b9 335c=34,70b9 335d=35,70b9 335e=36,70b9 335f=37,70b9 3360=38,70b9",
  "3361=39,70b9 3362=31,30,70b9 3363=31,31,70b9 3364=31,32,70b9 3365=31,33,70b9 3366=31,34,70b9",
  "3367=31,35,70b9 3368=31,36,70b9 3369=31,37,70b9 336a=31,38,70b9 336b=31,39,70b9",
  "336c=32,30,70b9 336d=32,31,70b9 336e=32,32,70b9 336f=32,33,70b9 3370=32,34,70b9",
  "3371=68,70,61 3372=64,61 3373=61,75 3374=62,61,72 3375=6f,76 3376=70,63 3377=64,6d",
  "3378=64,6d,32 3379=64,6d,33 337a=69,75 337b=5e73,6210 337c=662d,548c 337d=5927,6b63",
  "337e=660e,6cbb 337f=682a,5f0f,4f1a,793e 3380=70,61 3381=6e,61 3382=3bc,61 3383=6d,61",
  "3384=6b,61 3385=6b,62 3386=6d,62 3387=67,62 3388=63,61,6c 3389=6b,63,61,6c 338a=70,66",
  "338b=6e,66 338c=3bc,66 338d=3bc,67 338e=6d,67 338f=6b,67 3390=68,7a 3391=6b,68,7a",
  "3392=6d,68,7a 3393=67,68,7a 3394=74,68,7a 3395=3bc,6c 3396=6d,6c 3397=64,6c 3398=6b,6c",
  "3399=66,6d 339a=6e,6d 339b=3bc,6d 339c=6d,6d 339d=63,6d 339e=6b,6d 339f=6d,6d,32",
  "33a0=63,6d,32 33a1=6d,32 33a2=6b,6d,32 33a3=6d,6d,33 33a4=63,6d,33 33a5=6d,33 33a6=6b,6d,33",
  "33a7=6d,2215,73 33a8=6d,2215,73,32 33a9=70,61 33aa=6b,70,61 33ab=6d,70,61 33ac=67,70,61",
  "33ad=72,61,64 33ae=72,61,64,2215,73 33af=72,61,64,2215,73,32 33b0=70,73 33b1=6e,73",
  "33b2=3bc,73 33b3=6d,73 33b4=70,76 33b5=6e,76 33b6=3bc,76 33b7=6d,76 33b8=6b,76 33b9=6d,76",
  "33ba=70,77 33bb=6e,77 33bc=3bc,77 33bd=6d,77 33be=6b,77 33bf=6d,77 33c0=6b,3c9 33c1=6d,3c9",
  "33c2 33c3=62,71 33c4=63,63 33c5=63,64 33c6=63,2215,6b,67 33c7 33c8=64,62 33c9=67,79",
  "33ca=68,61 33cb=68,70 33cc=69,6e 33cd=6b,6b 33ce=6b,6d 33cf=6b,74 33d0=6c,6d 33d1=6c,6e",
  "33d2=6c,6f,67 33d3=6c,78 33d4=6d,62 33d5=6d,69,6c 33d6=6d,6f,6c 33d7=70,68 33d8",
  "33d9=70,70,6d 33da=70,72 33db=73,72 33dc=73,76 33dd=77,62 33de=76,2215,6d 33df=61,2215,6d",
  "33e0=31,65e5 33e1=32,65e5 33e2=33,65e5 33e3=34,65e5 33e4=35,65e5 33e5=36,65e5 33e6=37,65e5",
  "33e7=38,65e5 33e8=39,65e5 33e9=31,30,65e5 33ea=31,31,65e5 33eb=31,32,65e5 33ec=31,33,65e5",
  "33ed=31,34,65e5 33ee=31,35,65e5 33ef=31,36,65e5 33f0=31,37,65e5 33f1=31,38,65e5",
  "33f2=31,39,65e5 33f3=32,30,65e5 33f4=32,31,65e5 33f5=32,32,65e5 33f6=32,33,65e5",
  "33f7=32,34,65e5 33f8=32,35,65e5 33f9=32,36,65e5 33fa=32,37,65e5 33fb=32,38,65e5",
  "33fc=32,39,65e5 33fd=33,30,65e5 33fe=33,31,65e5 33ff=67,61,6c a48d-a48f a4c7-a4cf a62c-a63f",
  "a640-a66c^ a680-a69a^ a69c~a252 a69d~a251 a6f8-a6ff a722-a72e^ a732-a76e^ a770~1 a779-a77b^",
  "a77d~8a04 a77e-a786^ a78b+1 a78d~a528 a790-a792^ a796-a7a8^ a7aa~a544 a7ab~a54f a7ac~a54b",
  "a7ad~a541 a7ae~a544 a7b0~a512 a7b1~a52a a7b2~a515 a7b3+3a0 a7b4-a7c2^ a7c4~30 a7c5~a543",
  "a7c6~8a38 a7c7-a7c9^ a7cb~a567 a7cc-a7da^ a7dc~a641 a7dd-a7f0 a7f1~a77e a7f2~a78f a7f3~a78d",
  "a7f4~a783 a7f5+1 a7f8~a6d1 a7f9~a6a6 a82d-a82f a83a-a83f a878-a87f a8c6-a8cd a8da-a8df",
  "a954-a95e a97d-a97f a9ce a9da-a9dd a9ff aa37-aa3f aa4e-aa4f aa5a-aa5b aac3-aada aaf7-ab00",
  "ab07-ab08 ab0f-ab10 ab17-ab1f ab27 ab2f ab5c~435 ab5d~26 ab5e~a8f3 ab5f~d ab69~a8dc",
  "ab6c-ab6f ab70-abbf~97d0 abee-abef abfa-abff d7a4-d7af d7c7-d7ca d7fc-f8ff f900~6cb8",
  "f901~920d f902~6a38 f903~6c3b f904~8a33 f905~aad3 f906~a521 f907-f908=9f9c f909~9fb8",
  "f90a~6739 f90b~a384 f90c~9fc4 f90d~9717 f90e~82a5 f90f~798a f910~72d1 f911~7157 f912~701a",
  "f913~6884 f914~8f12 f915~8bfa f916~883d f917~8539 f918~74db f919~67af f91a~5f29 f91b~aa99",
  "f91c~a5a7 f91d~8e19 f91e~8703 f91f~72f2 f920~5b02 f921~9bd1 f922~8937 f923~7356 f924~6fc0",
  "f925~965c f926~774e f927~7108 f928~9a5e f929~9212 f92a~8bc0 f92b~862f f92c~685e f92d~a9a7",
  "f92e~a777 f92f~a651 f930~946c f931~8e5e f932~8722 f933~824c f934~7933 f935~732f f936~72da",
  "f937~6b48 f938~6206 f939~5dca f93a~5b40 f93b~80af f93c~7fbd f93d~7b9d f93e~7575 f93f~663b",
  "f940~5ac1 f941~6e6b f942~a063 f943~9a3f f944~7ce4 f945~78c7 f946~86e4 f947~807d f948~6c86",
  "f949~6252 f94a~a072 f94b~9ce9 f94c~8f39 f94d~8b73 f94e~8a3f f94f~7c20 f950~7b19 f951~6306",
  "f952~a680 f953~78c8 f954~a778 f955~a789 f956~7f3a f957~7b99 f958~7567 f959~62e4 f95a~6dda",
  "f95b~968c f95c~8f5a f95d~6e5f f95e~ab25 f95f~9d78 f960~994e f961~85da f962~83f2 f963~a64c",
  "f964~8069 f965~a9a6 f966~99bd f967~ab5a f968~8c9c f969~93f1 f96a~7c48 f96b~a5a8 f96c~a10e",
  "f96d~826c f96e~7525 f96f~6ec5 f970~8db6 f971~69c1 f972~8cea f973~9675 f974~768f f975~95d5",
  "f976~8411 f977~aac9 f978~a80f f979~a7b0 f97a~90f9 f97b~7c94 f97c~770d f97d~6eab f97e~67af",
  "f97f~a68a f980~a53e f981~a00e f982~9a96 f983~93be f984~8986 f985~805b f986~63d9 f987~5f1d",
  "f988~5af1 f989~5abb f98a~a6ef f98b~92c5 f98c~8e15 f98d~6a2b f98e~9b1a f98f~97ff f990~9790",
  "f991~94f7 f992~8a6f f993~884a f994~850b f995~7fcb f996~7ba2 f997~7928 f998~6a72 f999~74ab",
  "f99a~6977 f99b~6651 f99c~a785 f99d~a6fa f99e~a4e1 f99f~88d7 f9a0~70de f9a1~6ef7 f9a2~9ad9",
  "f9a3~99ae f9a4~9629 f9a5~8df7 f9a6~7d68 f9a7~8632 f9a8~aac4 f9a9~a2b0 f9aa~9dc3 f9ab~9bf1",
  "f9ac~9990 f9ad~85fb f9ae~8545 f9af~7a15 f9b0~796a f9b1~677d f9b2~62bc f9b3~626b f9b4~619c",
  "f9b5~aa2a f9b6~8008 f9b7~6803 f9b8~6300 f9b9~98d8 f9ba~ab34 f9bb~a8e1 f9bc~9dce f9bd~9d7e",
  "f9be~9425 f9bf~8fbd f9c0~87f2 f9c1~837f f9c2~74c6 f9c3~6947 f9c4~5a37 f9c5~933d f9c6~6398",
  "f9c7~a73e f9c8~924d f9c9~91d6 f9ca~8c89 f9cb~8b2f f9cc~85c3 f9cd~8474 f9ce~8163 f9cf~7cbf",
  "f9d0~6172 f9d1~a864 f9d2~97a4 f9d3~635b f9d4~a9a9 f9d5~9cbc f9d6~8bec f9d7~6aad f9d8~9a4d",
  "f9d9~9895 f9da~91c3 f9db~8654 f9dc~6356 f9dd~a7b4 f9de~a5cf f9df~9d7a f9e0~93cd f9e1~9293",
  "f9e2~913a f9e3~8cfe f9e4~85de f9e5~8403 f9e6~7a6d f9e7~7118 f9e8~7107 f9e9~681d f9ea~6308",
  "f9eb~a6ac f9ec~8b32 f9ed~a5d0 f9ee~881e f9ef~8557 f9f0~73f6 f9f1~634e f9f2~5d9b f9f3~5b54",
  "f9f4~925d f9f5~8c2a f9f6~780e f9f7~7f2c f9f8~7ed8 f9f9~7d67 f9fa~873a f9fb~8962 f9fc~6ea4",
  "f9fd~ab3d f9fe~76c8 f9ff~a7c5 fa00~a7f9 fa01~9b5b fa02~972f fa03~7d2d fa04~9e7f fa05~8ce7",
  "fa06~9352 fa07~6acc fa08~71bc fa09~63bc fa0a~707f fa0b~9b38 fa0c~a8cc fa0d~a44d fa10~a1b6",
  "fa12~939e fa15~a837 fa16~86ec fa17~834d fa18~80dc fa19~80bb fa1a~80b5 fa1b~808c fa1c~62c6",
  "fa1d~7d5f fa1e~7a61 fa20~740e fa22~6f2a fa25~69ed fa26~6929 fa2a~613b fa2b~612f fa2c~6104",
  "fa2d~5c79 fa2e~6950 fa2f~6378 fa30~aa82 fa31~a94a fa32~a8e5 fa33~a76a fa34~a750 fa35~a6e4",
  "fa36~a499 fa37~a431 fa38~a3d0 fa39~a1f9 fa3a~a192 fa3b~9dd7 fa3c~9dce fa3d~99a9 fa3e~98d6",
  "fa3f~98b1 fa40~984e fa41~94f2 fa42~9460 fa43~93b2 fa44~91bf fa45~8cce fa46~8c2c fa47~8b25",
  "fa48~88da fa49~881e fa4a~8628 fa4b~81ba fa4c~810e fa4d~8104 fa4e~8106 fa4f~80ff fa50~80fa",
  "fa51~80f4 fa52-fa53~80c5 fa54~8014 fa55~7fd4 fa56~7e96 fa57~7c63 fa58~7c4f fa59~7c18",
  "fa5a~7ae8 fa5b~7a56 fa5c~786f fa5d-fa5e=8279 fa5f~7608 fa60~7150 fa61~70cb fa62~6f61",
  "fa63~6f2a fa64~6d91 fa65~6d5d fa66~6ab0 fa67~6a2f fa68~6385 fa69~626a fa6a~622f fa6b~99f6",
  "fa6c+14882 fa6d~7855 fa6e-fa6f fa70~ac4a fa71~a8bc fa72~a90a fa73~aaf3 fa74~a92f fa75~a8f5",
  "fa76~a7af fa77~a77d fa78~a4db fa79~a524 fa7a~a4e1 fa7b~a499 fa7c~a222 fa7d~a1ca fa7e~a13a",
  "fa7f~a12b fa80~a01e fa81~9f59 fa82~9bb0 fa83~9baa fa84~9b1b fa85~9ad8 fa86~99ae fa87~9939",
  "fa88~9980 fa89~98fb fa8a~992a fa8b~9899 fa8c~9858 fa8d~96c9 fa8e~9672 fa8f~963d fa90~953a",
  "fa91~941d fa92~937b fa93~9378 fa94~933e fa95~8f1c fa96~8edc fa97~8d56 fa98~8bbd fa99~8bce",
  "fa9a~8b78 fa9b~8a7d fa9c~892e fa9d~82f6 fa9e~8869 fa9f~87f0 faa0~8776 faa1~8630 faa2~859c",
  "faa3~8568 faa4~8487 faa5~8486 faa6~83dc faa7~83cc faa8~83b4 faa9~835f faaa~836a faab~81df",
  "faac~7ffb faad~7eed faae~7e33 faaf~7d54 fab0~7cbc fab1~7b73 fab2~7aad fab3~7761 fab4~76c5",
  "fab5~733c fab6~7175 fab7~7131 fab8~7122 fab9~6ffa faba~6fc2 fabb~6ff0 fabc~6fbb fabd~6fbf",
  "fabe~6fd1 fabf~6f86 fac0~6f36 fac1~6db9 fac2~6b8a fac3~6a51 fac4~692b fac5~684f fac6~644a",
  "fac7~63e4 fac8~6372 fac9~62ee faca~62cb facb~62c0 facc~6291 facd~5fbb face~5b32 facf+12d7b",
  "fad0+12d74 fad1+13904 fad2~bf35 fad3~babb fad4~ba9b fad5+15774 fad6+161fa fad7+183fc",
  "fad8~5b95 fad9~5b4b fada-faff fb00=66,66 fb01=66,69 fb02=66,6c fb03=66,66,69 fb04=66,66,6c",
  "fb05-fb06=73,74 fb07-fb12 fb13=574,576 fb14=574,565 fb15=574,56b fb16=57e,576 fb17=574,56d",
  "fb18-fb1c fb1d=5d9,5b4 fb1f=5f2,5b7 fb20~f53e fb21~f551 fb22-fb23~f54f fb24-fb26~f549",
  "fb27~f53f fb28~f53e fb29~fafe fb2a=5e9,5c1 fb2b=5e9,5c2 fb2c=5e9,5bc,5c1 fb2d=5e9,5bc,5c2",
  "fb2e=5d0,5b7 fb2f=5d0,5b8 fb30=5d0,5bc fb31=5d1,5bc fb32=5d2,5bc fb33=5d3,5bc fb34=5d4,5bc",
  "fb35=5d5,5bc fb36=5d6,5bc fb37 fb38=5d8,5bc fb39=5d9,5bc fb3a=5da,5bc fb3b=5db,5bc",
  "fb3c=5dc,5bc fb3d fb3e=5de,5bc fb3f fb40=5e0,5bc fb41=5e1,5bc fb42 fb43=5e3,5bc fb44=5e4,5bc",
  "fb45 fb46=5e6,5bc fb47=5e7,5bc fb48=5e8,5bc fb49=5e9,5bc fb4a=5ea,5bc fb4b=5d5,5b9",
  "fb4c=5d1,5bf fb4d=5db,5bf fb4e=5e4,5bf fb4f=5d0,5dc fb50-fb51=671 fb52-fb55=67b",
  "fb56-fb59=67e fb5a-fb5d=680 fb5e-fb61=67a fb62-fb65=67f fb66-fb69=679 fb6a-fb6d=6a4",
  "fb6e-fb71=6a6 fb72-fb75=684 fb76-fb79=683 fb7a-fb7d=686 fb7e-fb81=687 fb82-fb83=68d",
  "fb84-fb85=68c fb86-fb87=68e fb88-fb89=688 fb8a-fb8b=698 fb8c-fb8d=691 fb8e-fb91=6a9",
  "fb92-fb95=6af fb96-fb99=6b3 fb9a-fb9d=6b1 fb9e-fb9f=6ba fba0-fba3=6bb fba4-fba5=6c0",
  "fba6-fba9=6c1 fbaa-fbad=6be fbae-fbaf=6d2 fbb0-fbb1=6d3 fbd3-fbd6=6ad fbd7-fbd8=6c7",
  "fbd9-fbda=6c6 fbdb-fbdc=6c8 fbdd=6c7,674 fbde-fbdf=6cb fbe0-fbe1=6c5 fbe2-fbe3=6c9",
  "fbe4-fbe7=6d0 fbe8-fbe9=649 fbea-fbeb=626,627 fbec-fbed=626,6d5 fbee-fbef=626,648",
  "fbf0-fbf1=626,6c7 fbf2-fbf3=626,6c6 fbf4-fbf5=626,6c8 fbf6-fbf8=626,6d0 fbf9-fbfb=626,649",
  "fbfc-fbff=6cc fc00=626,62c fc01=626,62d fc02=626,645 fc03=626,649 fc04=626,64a fc05=628,62c",
  "fc06=628,62d fc07=628,62e fc08=628,645 fc09=628,649 fc0a=628,64a fc0b=62a,62c fc0c=62a,62d",
  "fc0d=62a,62e fc0e=62a,645 fc0f=62a,649 fc10=62a,64a fc11=62b,62c fc12=62b,645 fc13=62b,649",
  "fc14=62b,64a fc15=62c,62d fc16=62c,645 fc17=62d,62c fc18=62d,645 fc19=62e,62c fc1a=62e,62d",
  "fc1b=62e,645 fc1c=633,62c fc1d=633,62d fc1e=633,62e fc1f=633,645 fc20=635,62d fc21=635,645",
  "fc22=636,62c fc23=636,62d fc24=636,62e fc25=636,645 fc26=637,62d fc27=637,645 fc28=638,645",
  "fc29=639,62c fc2a=639,645 fc2b=63a,62c fc2c=63a,645 fc2d=641,62c fc2e=641,62d fc2f=641,62e",
  "fc30=641,645 fc31=641,649 fc32=641,64a fc33=642,62d fc34=642,645 fc35=642,649 fc36=642,64a",
  "fc37=643,627 fc38=643,62c fc39=643,62d fc3a=643,62e fc3b=643,644 fc3c=643,645 fc3d=643,649",
  "fc3e=643,64a fc3f=644,62c fc40=644,62d fc41=644,62e fc42=644,645 fc43=644,649 fc44=644,64a",
  "fc45=645,62c fc46=645,62d fc47=645,62e fc48=645,645 fc49=645,649 fc4a=645,64a fc4b=646,62c",
  "fc4c=646,62d fc4d=646,62e fc4e=646,645 fc4f=646,649 fc50=646,64a fc51=647,62c fc52=647,645",
  "fc53=647,649 fc54=647,64a fc55=64a,62c fc56=64a,62d fc57=64a,62e fc58=64a,645 fc59=64a,649",
  "fc5a=64a,64a fc5b=630,670 fc5c=631,670 fc5d=649,670 fc5e=20,64c,651 fc5f=20,64d,651",
  "fc60=20,64e,651 fc61=20,64f,651 fc62=20,650,651 fc63=20,651,670 fc64=626,631 fc65=626,632",
  "fc66=626,645 fc67=626,646 fc68=626,649 fc69=626,64a fc6a=628,631 fc6b=628,632 fc6c=628,645",
  "fc6d=628,646 fc6e=628,649 fc6f=628,64a fc70=62a,631 fc71=62a,632 fc72=62a,645 fc73=62a,646",
  "fc74=62a,649 fc75=62a,64a fc76=62b,631 fc77=62b,632 fc78=62b,645 fc79=62b,646 fc7a=62b,649",
  "fc7b=62b,64a fc7c=641,649 fc7d=641,64a fc7e=642,649 fc7f=642,64a fc80=643,627 fc81=643,644",
  "fc82=643,645 fc83=643,649 fc84=643,64a fc85=644,645 fc86=644,649 fc87=644,64a fc88=645,627",
  "fc89=645,645 fc8a=646,631 fc8b=646,632 fc8c=646,645 fc8d=646,646 fc8e=646,649 fc8f=646,64a",
  "fc90=649,670 fc91=64a,631 fc92=64a,632 fc93=64a,645 fc94=64a,646 fc95=64a,649 fc96=64a,64a",
  "fc97=626,62c fc98=626,62d fc99=626,62e fc9a=626,645 fc9b=626,647 fc9c=628,62c fc9d=628,62d",
  "fc9e=628,62e fc9f=628,645 fca0=628,647 fca1=62a,62c fca2=62a,62d fca3=62a,62e fca4=62a,645",
  "fca5=62a,647 fca6=62b,645 fca7=62c,62d fca8=62c,645 fca9=62d,62c fcaa=62d,645 fcab=62e,62c",
  "fcac=62e,645 fcad=633,62c fcae=633,62d fcaf=633,62e fcb0=633,645 fcb1=635,62d fcb2=635,62e",
  "fcb3=635,645 fcb4=636,62c fcb5=636,62d fcb6=636,62e fcb7=636,645 fcb8=637,62d fcb9=638,645",
  "fcba=639,62c fcbb=639,645 fcbc=63a,62c fcbd=63a,645 fcbe=641,62c fcbf=641,62d fcc0=641,62e",
  "fcc1=641,645 fcc2=642,62d fcc3=642,645 fcc4=643,62c fcc5=643,62d fcc6=643,62e fcc7=643,644",
  "fcc8=643,645 fcc9=644,62c fcca=644,62d fccb=644,62e fccc=644,645 fccd=644,647 fcce=645,62c",
  "fccf=645,62d fcd0=645,62e fcd1=645,645 fcd2=646,62c fcd3=646,62d fcd4=646,62e fcd5=646,645",
  "fcd6=646,647 fcd7=647,62c fcd8=647,645 fcd9=647,670 fcda=64a,62c fcdb=64a,62d fcdc=64a,62e",
  "fcdd=64a,645 fcde=64a,647 fcdf=626,645 fce0=626,647 fce1=628,645 fce2=628,647 fce3=62a,645",
  "fce4=62a,647 fce5=62b,645 fce6=62b,647 fce7=633,645 fce8=633,647 fce9=634,645 fcea=634,647",
  "fceb=643,644 fcec=643,645 fced=644,645 fcee=646,645 fcef=646,647 fcf0=64a,645 fcf1=64a,647",
  "fcf2=640,64e,651 fcf3=640,64f,651 fcf4=640,650,651 fcf5=637,649 fcf6=637,64a fcf7=639,649",
  "fcf8=639,64a fcf9=63a,649 fcfa=63a,64a fcfb=633,649 fcfc=633,64a fcfd=634,649 fcfe=634,64a",
  "fcff=62d,649 fd00=62d,64a fd01=62c,649 fd02=62c,64a fd03=62e,649 fd04=62e,64a fd05=635,649",
  "fd06=635,64a fd07=636,649 fd08=636,64a fd09=634,62c fd0a=634,62d fd0b=634,62e fd0c=634,645",
  "fd0d=634,631 fd0e=633,631 fd0f=635,631 fd10=636,631 fd11=637,649 fd12=637,64a fd13=639,649",
  "fd14=639,64a fd15=63a,649 fd16=63a,64a fd17=633,649 fd18=633,64a fd19=634,649 fd1a=634,64a",
  "fd1b=62d,649 fd1c=62d,64a fd1d=62c,649 fd1e=62c,64a fd1f=62e,649 fd20=62e,64a fd21=635,649",
  "fd22=635,64a fd23=636,649 fd24=636,64a fd25=634,62c fd26=634,62d fd27=634,62e fd28=634,645",
  "fd29=634,631 fd2a=633,631 fd2b=635,631 fd2c=636,631 fd2d=634,62c fd2e=634,62d fd2f=634,62e",
  "fd30=634,645 fd31=633,647 fd32=634,647 fd33=637,645 fd34=633,62c fd35=633,62d fd36=633,62e",
  "fd37=634,62c fd38=634,62d fd39=634,62e fd3a=637,645 fd3b=638,645 fd3c-fd3d=627,64b",
  "fd50=62a,62c,645 fd51-fd52=62a,62d,62c fd53=62a,62d,645 fd54=62a,62e,645 fd55=62a,645,62c",
  "fd56=62a,645,62d fd57=62a,645,62e fd58-fd59=62c,645,62d fd5a=62d,645,64a fd5b=62d,645,649",
  "fd5c=633,62d,62c fd5d=633,62c,62d fd5e=633,62c,649 fd5f-fd60=633,645,62d fd61=633,645,62c",
  "fd62-fd63=633,645,645 fd64-fd65=635,62d,62d fd66=635,645,645 fd67-fd68=634,62d,645",
  "fd69=634,62c,64a fd6a-fd6b=634,645,62e fd6c-fd6d=634,645,645 fd6e=636,62d,649",
  "fd6f-fd70=636,62e,645 fd71-fd72=637,645,62d fd73=637,645,645 fd74=637,645,64a",
  "fd75=639,62c,645 fd76-fd77=639,645,645 fd78=639,645,649 fd79=63a,645,645 fd7a=63a,645,64a",
  "fd7b=63a,645,649 fd7c-fd7d=641,62e,645 fd7e=642,645,62d fd7f=642,645,645 fd80=644,62d,645",
  "fd81=644,62d,64a fd82=644,62d,649 fd83-fd84=644,62c,62c fd85-fd86=644,62e,645",
  "fd87-fd88=644,645,62d fd89=645,62d,62c fd8a=645,62d,645 fd8b=645,62d,64a fd8c=645,62c,62d",
  "fd8d=645,62c,645 fd8e=645,62e,62c fd8f=645,62e,645 fd92=645,62c,62e fd93=647,645,62c",
  "fd94=647,645,645 fd95=646,62d,645 fd96=646,62d,649 fd97-fd98=646,62c,645 fd99=646,62c,649",
  "fd9a=646,645,64a fd9b=646,645,649 fd9c-fd9d=64a,645,645 fd9e=628,62e,64a fd9f=62a,62c,64a",
  "fda0=62a,62c,649 fda1=62a,62e,64a fda2=62a,62e,649 fda3=62a,645,64a fda4=62a,645,649",
  "fda5=62c,645,64a fda6=62c,62d,649 fda7=62c,645,649 fda8=633,62e,649 fda9=635,62d,64a",
  "fdaa=634,62d,64a fdab=636,62d,64a fdac=644,62c,64a fdad=644,645,64a fdae=64a,62d,64a",
  "fdaf=64a,62c,64a fdb0=64a,645,64a fdb1=645,645,64a fdb2=642,645,64a fdb3=646,62d,64a",
  "fdb4=642,645,62d fdb5=644,62d,645 fdb6=639,645,64a fdb7=643,645,64a fdb8=646,62c,62d",
  "fdb9=645,62e,64a fdba=644,62c,645 fdbb=643,645,645 fdbc=644,62c,645 fdbd=646,62c,62d",
  "fdbe=62c,62d,64a fdbf=62d,62c,64a fdc0=645,62c,64a fdc1=641,645,64a fdc2=628,62d,64a",
  "fdc3=643,645,645 fdc4=639,62c,645 fdc5=635,645,645 fdc6=633,62e,64a fdc7=646,62c,64a",
  "fdd0-fdef fdf0=635,644,6d2 fdf1=642,644,6d2 fdf2=627,644,644,647 fdf3=627,643,628,631",
  "fdf4=645,62d,645,62f fdf5=635,644,639,645 fdf6=631,633,648,644 fdf7=639,644,64a,647",
  "fdf8=648,633,644,645 fdf9=635,644,649",
  "fdfa=635,644,649,20,627,644,644,647,20,639,644,64a,647,20,648,633,644,645",
  "fdfb=62c,644,20,62c,644,627,644,647 fdfc=631,6cc,627,644 fe00-fe0f= fe10~fde4 fe11~ce10 fe12",
  "fe13-fe14~fdd9 fe15~fdf4 fe16~fdd7 fe17-fe18~ce01 fe19-fe1f fe30 fe31~de1d fe32~de1f",
  "fe33-fe34=5f fe35-fe36~fe0d fe37~fdbc fe38~fdbb fe39-fe3a~ce25 fe3b-fe3c~ce2b fe3d-fe3e~ce33",
  "fe3f-fe40~ce37 fe41-fe44~ce35 fe47~fdec fe48~fdeb fe49-fe4c=20,305 fe4d-fe4f=5f fe50~fe24",
  "fe51~ce50 fe52-fe53 fe54~fe19 fe55~fe1b fe56~fe17 fe57~fe36 fe58~de44 fe59-fe5a~fe31",
  "fe5b~fde0 fe5c~fddf fe5d-fe5e~ce49 fe5f~fe3c fe60~fe3a fe61-fe62~fe37 fe63~fe36 fe64~fe28",
  "fe65~fe27 fe66~fe29 fe67 fe68~fe0c fe69-fe6a~fe45 fe6b~fe2b fe6c-fe6f fe70=20,64b",
  "fe71=640,64b fe72=20,64c fe74=20,64d fe75 fe76=20,64e fe77=640,64e fe78=20,64f fe79=640,64f",
  "fe7a=20,650 fe7b=640,650 fe7c=20,651 fe7d=640,651 fe7e=20,652 fe7f=640,652 fe80-fe81~f85f",
  "fe82-fe83~f860 fe84-fe85~f861 fe86-fe87~f862 fe88-fe89~f863 fe8a-fe8c=626 fe8d-fe8e=627",
  "fe8f-fe92=628 fe93-fe94=629 fe95-fe98=62a fe99-fe9c=62b fe9d-fea0=62c fea1-fea4=62d",
  "fea5-fea8=62e fea9-feaa=62f feab-feac=630 fead-feae=631 feaf-feb0=632 feb1-feb4=633",
  "feb5-feb8=634 feb9-febc=635 febd-fec0=636 fec1-fec4=637 fec5-fec8=638 fec9-fecc=639",
  "fecd-fed0=63a fed1-fed4=641 fed5-fed8=642 fed9-fedc=643 fedd-fee0=644 fee1-fee4=645",
  "fee5-fee8=646 fee9-feec=647 feed-feee=648 feef-fef0=649 fef1-fef4=64a fef5-fef6=644,622",
  "fef7-fef8=644,623 fef9-fefa=644,625 fefb-fefc=644,627 fefd-fefe feff= ff00 ff01-ff20~fee0",
  "ff21-ff3a~fec0 ff3b-ff5e~fee0 ff5f-ff60~d5da ff61~ff33 ff62-ff63~cf56 ff64~cf63 ff65~ce6a",
  "ff66~ce74 ff67~cec6 ff68~cec5 ff69~cec4 ff6a~cec3 ff6b~cec2 ff6c~ce89 ff6d~ce88 ff6e~ce87",
  "ff6f~ceac ff70~ce74 ff71~cecf ff72~cece ff73~cecd ff74~cecc ff75-ff76~cecb ff77~ceca",
  "ff78~cec9 ff79~cec8 ff7a~cec7 ff7b~cec6 ff7c~cec5 ff7d~cec4 ff7e~cec3 ff7f~cec2 ff80~cec1",
  "ff81~cec0 ff82~cebe ff83~cebd ff84~cebc ff85-ff8a~cebb ff8b~ceb9 ff8c~ceb7 ff8d~ceb5",
  "ff8e~ceb3 ff8f-ff93~ceb1 ff94~ceb0 ff95~ceaf ff96-ff9b~ceae ff9c~cead ff9d~ceaa",
  "ff9e-ff9f~cf05 ffa0= ffa1-ffa2~eea1 ffa3~edf9 ffa4~eea2 ffa5-ffa6~edf9 ffa7-ffa9~eea4",
  "ffaa-ffaf~edfa ffb0~ee96 ffb1-ffb3~eeab ffb4~ee93 ffb5-ffbe~eeac ffbf-ffc1 ffc2-ffc7~ee61",
  "ffc8-ffc9 ffca-ffcf~ee63 ffd0-ffd1 ffd2-ffd7~ee65 ffd8-ffd9 ffda-ffdc~ee67 ffdd-ffdf",
  "ffe0-ffe1~ff3e ffe2~ff36 ffe3=20,304 ffe4~ff3e ffe5~ff40 ffe6~df3d ffe7 ffe8~dae6",
  "ffe9-ffec~de59 ffed~da4d ffee~da23 ffef-ffff 1000c 10027 1003b 1003e 1004e-1004f 1005e-1007f",
  "100fb-100ff 10103-10106 10134-10136 1018f 1019d-1019f 101a1-101cf 101fe-1027f 1029d-1029f",
  "102d1-102df 102fc-102ff 10324-1032c 1034b-1034f 1037b-1037f 1039e 103c4-103c7 103d6-103ff",
  "10400-10427+28 1049e-1049f 104aa-104af 104b0-104d3+28 104d4-104d7 104fc-104ff 10528-1052f",
  "10564-1056e 10570-1057a+27 1057b 1057c-1058a+27 1058b 1058c-10592+27 10593 10594-10595+27",
  "10596 105a2 105b2 105ba 105bd-105bf 105f4-105ff 10737-1073f 10756-1075f 10768-1077f",
  "10781-10782~104b1 10783~1069d 10784~104eb 10785~10532 10786 10787~104e4 10788~5c22",
  "10789~104e4 1078a~104e6 1078b-1078c~10535 1078d~e9fc 1078e~10536 1078f~10531 10790~104e7",
  "10791~1052d 10792~10530 10793~10533 10794~104f9 10795~1066e 10796~104fa 10797~10530",
  "10798~10514 10799-1079a~104ef 1079b~1052f 1079c+d768 1079d~600f 1079e~10530 1079f+d766",
  "107a0~10512 107a1+d765 107a2~106aa 107a3-107a4~1052d 107a5~10734 107a6~1052c 107a7+d761",
  "107a8-107a9~1052b 107aa~1052a 107ab~10503 107ac~10506 107ad~5c46 107ae~10507 107af~10527",
  "107b0~db3f 107b1 107b2~10523 107b3-107b4~10512 107b5~1051d 107b6-107b8~105f6 107b9+d751",
  "107ba+d764 107bb-107ff 10806-10807 10809 10836 10839-1083b 1083d-1083e 10856 1089f-108a6",
  "108b0-108df 108f3 108f6-108fa 1091c-1091e 1093a-1093e 1095a-1097f 109b8-109bb 109d0-109d1",
  "10a04 10a07-10a0b 10a14 10a18 10a36-10a37 10a3b-10a3e 10a49-10a4f 10a59-10a5f 10aa0-10abf",
  "10ae7-10aea 10af7-10aff 10b36-10b38 10b56-10b57 10b73-10b77 10b92-10b98 10b9d-10ba8",
  "10bb0-10bff 10c49-10c7f 10c80-10cb2+40 10cb3-10cbf 10cf3-10cf9 10d28-10d2f 10d3a-10d3f",
  "10d50-10d65+20 10d66-10d68 10d86-10d8d 10d90-10e5f 10e7f 10eaa 10eae-10eaf 10eb2-10ec1",
  "10ec8-10ecf 10ed9-10ef9 10f28-10f2f 10f5a-10f6f 10f8a-10faf 10fcc-10fdf 10ff7-10fff",
  "1104e-11051 11076-1107e 110bd 110c3-110cf 110e9-110ef 110fa-110ff 11135 11148-1114f",
  "11177-1117f 111e0 111f5-111ff 11212 11242-1127f 11287 11289 1128e 1129e 112aa-112af",
  "112eb-112ef 112fa-112ff 11304 1130d-1130e 11311-11312 11329 11331 11334 1133a 11345-11346",
  "11349-1134a 1134e-1134f 11351-11356 11358-1135c 11364-11365 1136d-1136f 11375-1137f 1138a",
  "1138c-1138d 1138f 113b6 113c1 113c3-113c4 113c6 113cb 113d6 113d9-113e0 113e3-113ff 1145c",
  "11462-1147f 114c8-114cf 114da-1157f 115b6-115b7 115de-115ff 11645-1164f 1165a-1165f",
  "1166d-1167f 116ba-116bf 116ca-116cf 116e4-116ff 1171b-1171c 1172c-1172f 11747-117ff",
  "1183c-1189f 118a0-118bf+20 118f3-118fe 11907-11908 1190a-1190b 11914 11917 11936 11939-1193a",
  "11947-1194f 1195a-1199f 119a8-119a9 119d8-119d9 119e5-119ff 11a48-11a4f 11aa3-11aaf",
  "11af9-11aff 11b0a-11b5f 11b68-11bbf 11be2-11bef 11bfa-11bff 11c09 11c37 11c46-11c4f",
  "11c6d-11c6f 11c90-11c91 11ca8 11cb7-11cff 11d07 11d0a 11d37-11d39 11d3b 11d3e 11d48-11d4f",
  "11d5a-11d5f 11d66 11d69 11d8f 11d92 11d99-11d9f 11daa-11daf 11ddc-11ddf 11dea-11edf",
  "11ef9-11eff 11f11 11f3b-11f3d 11f5b-11faf 11fb1-11fbf 11ff2-11ffe 1239a-123ff 1246f",
  "12475-1247f 12544-12f8f 12ff3-12fff 13430-1343f 13456-1345f 143fb-143ff 14647-160ff",
  "1613a-167ff 16a39-16a3f 16a5f 16a6a-16a6d 16abf 16aca-16acf 16aee-16aef 16af6-16aff",
  "16b46-16b4f 16b5a 16b62 16b78-16b7c 16b90-16d3f 16d7a-16e3f 16e40-16e5f+20 16e9b-16e9f",
  "16ea0-16eb8+1b 16eb9-16eba 16ed4-16eff 16f4b-16f4e 16f88-16f8e 16fa0-16fdf 16fe5-16fef",
  "16ff7-16fff 18cd6-18cfe 18d1f-18d7f 18df3-1afef 1aff4 1affc 1afff 1b123-1b131 1b133-1b14f",
  "1b153-1b154 1b156-1b163 1b168-1b16f 1b2fc-1bbff 1bc6b-1bc6f 1bc7d-1bc7f 1bc89-1bc8f",
  "1bc9a-1bc9b 1bca0-1bca3= 1bca4-1cbff 1ccd6-1ccef~1cc75 1ccf0-1ccf9~1ccc0 1ccfd-1ccff",
  "1ceb4-1ceb9 1ced1-1cedf 1cef1-1ceff 1cf2e-1cf2f 1cf47-1cf4f 1cfc4-1cfff 1d0f6-1d0ff",
  "1d127-1d128 1d15e=1d157,1d165 1d15f=1d158,1d165 1d160=1d158,1d165,1d16e",
  "1d161=1d158,1d165,1d16f 1d162=1d158,1d165,1d170 1d163=1d158,1d165,1d171",
  "1d164=1d158,1d165,1d172 1d173-1d17a= 1d1bb=1d1b9,1d165 1d1bc=1d1ba,1d165",
  "1d1bd=1d1b9,1d165,1d16e 1d1be=1d1ba,1d165,1d16e 1d1bf=1d1b9,1d165,1d16f",
  "1d1c0=1d1ba,1d165,1d16f 1d1eb-1d1ff 1d246-1d2bf 1d2d4-1d2df 1d2f4-1d2ff 1d357-1d35f",
  "1d379-1d3ff 1d400-1d419~1d39f 1d41a-1d433~1d3b9 1d434-1d44d~1d3d3 1d44e-1d454~1d3ed 1d455",
  "1d456-1d467~1d3ed 1d468-1d481~1d407 1d482-1d49b~1d421 1d49c~1d43b 1d49d 1d49e-1d49f~1d43b",
  "1d4a0-1d4a1 1d4a2~1d43b 1d4a3-1d4a4 1d4a5-1d4a6~1d43b 1d4a7-1d4a8 1d4a9-1d4ac~1d43b 1d4ad",
  "1d4ae-1d4b5~1d43b 1d4b6-1d4b9~1d455 1d4ba 1d4bb~1d455 1d4bc 1d4bd-1d4c3~1d455 1d4c4",
  "1d4c5-1d4cf~1d455 1d4d0-1d4e9~1d46f 1d4ea-1d503~1d489 1d504-1d505~1d4a3 1d506",
  "1d507-1d50a~1d4a3 1d50b-1d50c 1d50d-1d514~1d4a3 1d515 1d516-1d51c~1d4a3 1d51d",
  "1d51e-1d537~1d4bd 1d538-1d539~1d4d7 1d53a 1d53b-1d53e~1d4d7 1d53f 1d540-1d544~1d4d7 1d545",
  "1d546~1d4d7 1d547-1d549 1d54a-1d550~1d4d7 1d551 1d552-1d56b~1d4f1 1d56c-1d585~1d50b",
  "1d586-1d59f~1d525 1d5a0-1d5b9~1d53f 1d5ba-1d5d3~1d559 1d5d4-1d5ed~1d573 1d5ee-1d607~1d58d",
  "1d608-1d621~1d5a7 1d622-1d63b~1d5c1 1d63c-1d655~1d5db 1d656-1d66f~1d5f5 1d670-1d689~1d60f",
  "1d68a-1d6a3~1d629 1d6a4~1d573 1d6a5~1d46e 1d6a6-1d6a7 1d6a8-1d6b8~1d2f7 1d6b9~1d301",
  "1d6ba-1d6c0~1d2f7 1d6c1~1b4ba 1d6c2-1d6d2~1d311 1d6d3-1d6d4=3c3 1d6d5-1d6da~1d311",
  "1d6db~1b4d9 1d6dc~1d327 1d6dd~1d325 1d6de~1d324 1d6df~1d319 1d6e0~1d31f 1d6e1~1d321",
  "1d6e2-1d6f2~1d331 1d6f3~1d33b 1d6f4-1d6fa~1d331 1d6fb~1b4f4 1d6fc-1d70c~1d34b",
  "1d70d-1d70e=3c3 1d70f-1d714~1d34b 1d715~1b513 1d716~1d361 1d717~1d35f 1d718~1d35e",
  "1d719~1d353 1d71a~1d359 1d71b~1d35b 1d71c-1d72c~1d36b 1d72d~1d375 1d72e-1d734~1d36b",
  "1d735~1b52e 1d736-1d746~1d385 1d747-1d748=3c3 1d749-1d74e~1d385 1d74f~1b54d 1d750~1d39b",
  "1d751~1d399 1d752~1d398 1d753~1d38d 1d754~1d393 1d755~1d395 1d756-1d766~1d3a5 1d767~1d3af",
  "1d768-1d76e~1d3a5 1d76f~1b568 1d770-1d780~1d3bf 1d781-1d782=3c3 1d783-1d788~1d3bf",
  "1d789~1b587 1d78a~1d3d5 1d78b~1d3d3 1d78c~1d3d2 1d78d~1d3c7 1d78e~1d3cd 1d78f~1d3cf",
  "1d790-1d7a0~1d3df 1d7a1~1d3e9 1d7a2-1d7a8~1d3df 1d7a9~1b5a2 1d7aa-1d7ba~1d3f9",
  "1d7bb-1d7bc=3c3 1d7bd-1d7c2~1d3f9 1d7c3~1b5c1 1d7c4~1d40f 1d7c5~1d40d 1d7c6~1d40c",
  "1d7c7~1d401 1d7c8~1d407 1d7c9~1d409 1d7ca-1d7cb=3dd 1d7cc-1d7cd 1d7ce-1d7d7~1d79e",
  "1d7d8-1d7e1~1d7a8 1d7e2-1d7eb~1d7b2 1d7ec-1d7f5~1d7bc 1d7f6-1d7ff~1d7c6 1da8c-1da9a 1daa0",
  "1dab0-1deff 1df1f-1df24 1df2b-1dfff 1e007 1e019-1e01a 1e022 1e025 1e02b-1e02f",
  "1e030-1e038~1dc00 1e039-1e03b~1dbff 1e03c-1e046~1dbfe 1e047~1dbfc 1e048-1e049~1dbfb",
  "1e04a~139c1 1e04b~1db72 1e04c~1dbf6 1e04d~1dbf5 1e04e~1db65 1e04f~1dba0 1e050~1db81",
  "1e051-1e059~1dc21 1e05a-1e05b~1dc20 1e05c-1e05d~1dc1e 1e05e~1dc1d 1e05f-1e064~1dc1c",
  "1e065-1e066~1dc1b 1e067~1dbd6 1e068~1dc12 1e069~1dc14 1e06a~1dc0b 1e06b~1dbc0 1e06c~13a1b",
  "1e06d~1dbbc 1e06e-1e08e 1e090-1e0ff 1e12d-1e12f 1e13e-1e13f 1e14a-1e14d 1e150-1e28f",
  "1e2af-1e2bf 1e2fa-1e2fe 1e300-1e4cf 1e4fa-1e5cf 1e5fb-1e5fe 1e600-1e6bf 1e6df 1e6f6-1e6fd",
  "1e700-1e7df 1e7e7 1e7ec 1e7ef 1e7ff 1e8c5-1e8c6 1e8d7-1e8ff 1e900-1e921+22 1e94c-1e94f",
  "1e95a-1e95d 1e960-1ec70 1ecb5-1ed00 1ed3e-1edff 1ee00-1ee01~1e7d9 1ee02~1e7d6 1ee03~1e7d4",
  "1ee04 1ee05~1e7bd 1ee06~1e7d4 1ee07~1e7da 1ee08~1e7d1 1ee09~1e7bf 1ee0a-1ee0d~1e7c7",
  "1ee0e~1e7db 1ee0f~1e7d6 1ee10~1e7cf 1ee11~1e7dc 1ee12~1e7d0 1ee13~1e7e2 1ee14~1e7e0",
  "1ee15-1ee16~1e7eb 1ee17~1e7e9 1ee18~1e7e8 1ee19~1e7e3 1ee1a~1e7e2 1ee1b~1e7e1 1ee1c~1e7ae",
  "1ee1d~1e763 1ee1e~1e77d 1ee1f~1e7b0 1ee20 1ee21~1e7f9 1ee22~1e7f6 1ee23 1ee24~1e7dd",
  "1ee25-1ee26 1ee27~1e7fa 1ee28 1ee29~1e7df 1ee2a-1ee2d~1e7e7 1ee2e~1e7fb 1ee2f~1e7f6",
  "1ee30~1e7ef 1ee31~1e7fc 1ee32~1e7f0 1ee33 1ee34~1e800 1ee35-1ee36~1e80b 1ee37~1e809 1ee38",
  "1ee39~1e803 1ee3a 1ee3b~1e801 1ee3c-1ee41 1ee42~1e816 1ee43-1ee46 1ee47~1e81a 1ee48",
  "1ee49~1e7ff 1ee4a 1ee4b~1e807 1ee4c 1ee4d~1e807 1ee4e~1e81b 1ee4f~1e816 1ee50 1ee51~1e81c",
  "1ee52~1e810 1ee53 1ee54~1e820 1ee55-1ee56 1ee57~1e829 1ee58 1ee59~1e823 1ee5a 1ee5b~1e821",
  "1ee5c 1ee5d~1e7a3 1ee5e 1ee5f~1e7f0 1ee60 1ee61~1e839 1ee62~1e836 1ee63 1ee64~1e81d",
  "1ee65-1ee66 1ee67~1e83a 1ee68~1e831 1ee69~1e81f 1ee6a~1e827 1ee6b 1ee6c-1ee6d~1e827",
  "1ee6e~1e83b 1ee6f~1e836 1ee70~1e82f 1ee71~1e83c 1ee72~1e830 1ee73 1ee74~1e840",
  "1ee75-1ee76~1e84b 1ee77~1e849 1ee78 1ee79~1e843 1ee7a~1e842 1ee7b~1e841 1ee7c~1e80e 1ee7d",
  "1ee7e~1e7dd 1ee7f 1ee80-1ee81~1e859 1ee82~1e856 1ee83~1e854 1ee84-1ee85~1e83d 1ee86~1e854",
  "1ee87~1e85a 1ee88~1e851 1ee89~1e83f 1ee8a 1ee8b-1ee8d~1e847 1ee8e~1e85b 1ee8f~1e856",
  "1ee90~1e84f 1ee91~1e85c 1ee92~1e850 1ee93~1e862 1ee94~1e860 1ee95-1ee96~1e86b 1ee97~1e869",
  "1ee98~1e868 1ee99~1e863 1ee9a~1e862 1ee9b~1e861 1ee9c-1eea0 1eea1~1e879 1eea2~1e876",
  "1eea3~1e874 1eea4 1eea5~1e85d 1eea6~1e874 1eea7~1e87a 1eea8~1e871 1eea9~1e85f 1eeaa",
  "1eeab-1eead~1e867 1eeae~1e87b 1eeaf~1e876 1eeb0~1e86f 1eeb1~1e87c 1eeb2~1e870 1eeb3~1e882",
  "1eeb4~1e880 1eeb5-1eeb6~1e88b 1eeb7~1e889 1eeb8~1e888 1eeb9~1e883 1eeba~1e882 1eebb~1e881",
  "1eebc-1eeef 1eef2-1efff 1f02c-1f02f 1f094-1f09f 1f0af-1f0b0 1f0c0 1f0d0 1f0f6-1f100",
  "1f101=30,2c 1f102=31,2c 1f103=32,2c 1f104=33,2c 1f105=34,2c 1f106=35,2c 1f107=36,2c",
  "1f108=37,2c 1f109=38,2c 1f10a=39,2c 1f110=28,61,29 1f111=28,62,29 1f112=28,63,29",
  "1f113=28,64,29 1f114=28,65,29 1f115=28,66,29 1f116=28,67,29 1f117=28,68,29 1f118=28,69,29",
  "1f119=28,6a,29 1f11a=28,6b,29 1f11b=28,6c,29 1f11c=28,6d,29 1f11d=28,6e,29 1f11e=28,6f,29",
  "1f11f=28,70,29 1f120=28,71,29 1f121=28,72,29 1f122=28,73,29 1f123=28,74,29 1f124=28,75,29",
  "1f125=28,76,29 1f126=28,77,29 1f127=28,78,29 1f128=28,79,29 1f129=28,7a,29",
  "1f12a=3014,73,3015 1f12b~1f0c8 1f12c~1f0ba 1f12d=63,64 1f12e=77,7a 1f130-1f149~1f0cf",
  "1f14a=68,76 1f14b=6d,76 1f14c=73,64 1f14d=73,73 1f14e=70,70,76 1f14f=77,63 1f16a=6d,63",
  "1f16b=6d,64 1f16c=6d,72 1f190=64,6a 1f1ae-1f1e5 1f200=307b,304b 1f201=30b3,30b3 1f202~1c14d",
  "1f203-1f20f 1f210~18fc5 1f211~196ba 1f212~19e46 1f213~1c14c 1f214~1a388 1f215~198fb",
  "1f216~16833 1f217~198ee 1f218~1a374 1f219~18bf9 1f21a~180f9 1f21b~18c82 1f21c~19fcf",
  "1f21d~19291 1f21e~1a091 1f21f~18c6f 1f220~1a003 1f221~174df 1f222~17d03 1f223~1657a",
  "1f224~19934 1f225~19dec 1f226~18312 1f227~18f92 1f228~18ed3 1f229~1a429 1f22a~1a421",
  "1f22b~161e1 1f22c~19446 1f22d~1a400 1f22e~19e3b 1f22f~18f28 1f230~164c0 1f231~18fde",
  "1f232~178b1 1f233~177b9 1f234~19e2c 1f235~183b5 1f236~18b2d 1f237~18b2f 1f238~17d05",
  "1f239~19fc7 1f23a~19c84 1f23b~160ee 1f23c-1f23f 1f240=3014,672c,3015 1f241=3014,4e09,3015",
  "1f242=3014,4e8c,3015 1f243=3014,5b89,3015 1f244=3014,70b9,3015 1f245=3014,6253,3015",
  "1f246=3014,76d7,3015 1f247=3014,52dd,3015 1f248=3014,6557,3015 1f249-1f24f 1f250~192b9",
  "1f251~19e62 1f252-1f25f 1f266-1f2ff 1f6d9-1f6db 1f6ed-1f6ef 1f6fd-1f6ff 1f7da-1f7df",
  "1f7ec-1f7ef 1f7f1-1f7ff 1f80c-1f80f 1f848-1f84f 1f85a-1f85f 1f888-1f88f 1f8ae-1f8af",
  "1f8bc-1f8bf 1f8c2-1f8cf 1f8d9-1f8ff 1fa58-1fa5f 1fa6e-1fa6f 1fa7d-1fa7f 1fa8b-1fa8d 1fac7",
  "1fac9-1facc 1fadd-1fade 1faeb-1faee 1faf9-1faff 1fb93 1fbf0-1fbf9~1fbc0 1fbfb-1ffff",
  "2a6e0-2a6ff 2b81e-2b81f 2ceae-2ceaf 2ebe1-2ebef 2ee5e-2f7ff 2f800~2a9c3 2f801~2a9c9",
  "2f802~2a9c1 2f803~f6e1 2f804~2a8a4 2f805~2a857 2f806~2a84b 2f807~2a805 2f808~2a78e",
  "2f809~2a770 2f80a~2a723 2f80b~2a73c 2f80c~2c36e 2f80d~f1d3 2f80e~2a6c1 2f80f~2a6bb",
  "2f810~2a6ac 2f811~2a69a 2f812~f2f6 2f813~2c35a 2f814~2a6ad 2f815~2a688 2f816~f2cb",
  "2f817~2a680 2f818~2a674 2f819~2a94d 2f81a~2a66e 2f81b~2a666 2f81c~663d 2f81d~2a628",
  "2f81e~2a61b 2f81f~2c340 2f820~2a5e5 2f821~2a5db 2f822~2a5b0 2f823~2a5ac 2f824~2c30f",
  "2f825~2a55e 2f826~2a55d 2f827~2a543 2f828~2a52e 2f829-2f82a~2a524 2f82b~2a514 2f82c~2a4e3",
  "2f82d~2a4dc 2f82e~2a4d4 2f82f~2a4bc 2f830~2a4b3 2f831-2f833=537f 2f834~ee08 2f835~287c5",
  "2f836~2a46c 2f837~2a458 2f838~ecd5 2f839~2a44e 2f83a~2a449 2f83b~2a435 2f83c~2a39e",
  "2f83d~2a405 2f83e~2a3f6 2f83f~2a3d7 2f840~2a39e 2f841~2a34b 2f842~2a332 2f843~2a2f0",
  "2f844~2a2e1 2f845-2f846=5584 2f847~2a2ae 2f848~2a29d 2f849~2a296 2f84a~2a288 2f84b~2a135",
  "2f84c~2a246 2f84d~2a136 2f84e~2a1fd 2f84f~2a1db 2f850~2a649 2f851~29f63 2f852~2a084",
  "2f853~2a05f 2f854~2a047 2f855~2a0ca 2f856~2a024 2f857~2a026 2f858~29fac 2f859~e375",
  "2f85a~29f68 2f85b~29f64 2f85c~29f56 2f85d~29f43 2f85e~29f3c 2f85f~29efd 2f860~e1b8",
  "2f861~e177 2f862~29e76 2f863~29e48 2f864~29e3d 2f865~29e8d 2f866~29e00 2f867~2c179",
  "2f868~2c16c 2f869~29d61 2f86a-2f86b=5b3e 2f86c~dea4 2f86d~29caa 2f86e~29c96 2f86f~29c88",
  "2f870~29c7d 2f871~dd59 2f872~29c73 2f873~29c6d 2f874~29921 2f875~29c53 2f876~2c0f5",
  "2f877~29c17 2f878~29c0a 2f879~29bb9 2f87a~29bed 2f87b~da97 2f87c~29b39 2f87d~da97",
  "2f87e~29b10 2f87f~29b14 2f880~29b04 2f881-2f882~29aa0 2f883~2c054 2f884~29a87 2f885~29a5d",
  "2f886~29a49 2f887~29a1e 2f888~2c026 2f889~d706 2f88a~2c00e 2f88b~299db 2f88c~299d9",
  "2f88d~299d7 2f88e~299c4 2f88f~54fd 2f890~29992 2f891-2f892=22331 2f893~27692",
  "2f894-2f895=5f22 2f896~2bfcf 2f897~c5df 2f898~96be 2f899~29937 2f89a~2992f 2f89b~2bfb8",
  "2f89c~29902 2f89d~298d0 2f89e~298c7 2f89f~298a6 2f8a0~2981f 2f8a1~2bf67 2f8a2~2bf86",
  "2f8a3~2980f 2f8a4~d1d0 2f8a5~297de 2f8a6~2975e 2f8a7~2975b 2f8a8~2975a 2f8a9~2975d",
  "2f8aa~29730 2f8ab~2971d 2f8ac~296fa 2f8ad~29709 2f8ae~296ff 2f8af~296d1 2f8b0~296be",
  "2f8b1~296bb 2f8b2~296a2 2f8b3~29698 2f8b4~29657 2f8b5~29604 2f8b6~295e2 2f8b7~29567",
  "2f8b8~cdac 2f8b9~2957c 2f8ba~295be 2f8bb~29553 2f8bc~29539 2f8bd~294d9 2f8be~cccd",
  "2f8bf~2949d 2f8c0~294fb 2f8c1~29518 2f8c2~2be94 2f8c3~2945a 2f8c4~29446 2f8c5~29428",
  "2f8c6~2944f 2f8c7~2be5b 2f8c8~29379 2f8c9~2935d 2f8ca~c8c0 2f8cb~292e8 2f8cc~291d4",
  "2f8cd~29284 2f8ce~2bdb5 2f8cf~2923e 2f8d0~2bdc8 2f8d1~2bded 2f8d2~2a740 2f8d3~2a73e",
  "2f8d4~291d4 2f8d5~29239 2f8d6~27829 2f8d7~2b4fe 2f8d8~291c1 2f8d9~291be 2f8da~291b9",
  "2f8db~2917d 2f8dc~29189 2f8dd~c51a 2f8de~2bd95 2f8df~290e5 2f8e0~2915b 2f8e1~2908f",
  "2f8e2~2905d 2f8e3~c476 2f8e4~29056 2f8e5~290c6 2f8e6~28fd2 2f8e7~2bd4a 2f8e8~28fa6",
  "2f8e9~28f46 2f8ea~28f00 2f8eb~28e43 2f8ec~c249 2f8ed~28e12 2f8ee~2bcd6 2f8ef~28dce",
  "2f8f0~c049 2f8f1~28d9d 2f8f2~2bca4 2f8f3~28d81 2f8f4~28d55 2f8f5-2f8f6~28d3b 2f8f7~be6a",
  "2f8f8~dbed 2f8f9~bdff 2f8fa~28cac 2f8fb~bc3f 2f8fc~28c3d 2f8fd~28c30 2f8fe~28c97 2f8ff~28be9",
  "2f900~28bc2 2f901~28b8a 2f902~28bc1 2f903~28b9a 2f904~28b8c 2f905~28b80 2f906~bbe8",
  "2f907~28bd3 2f908~28ad9 2f909~28a9b 2f90a~2bbd7 2f90b~28a40 2f90c~28a45 2f90d~ba3c",
  "2f90e~28b15 2f90f~289a1 2f910~b9b2 2f911~b983 2f912~2894c 2f913~288da 2f914~288f6",
  "2f915~288fa 2f916~2bb80 2f917~288cd 2f918~2889b 2f919~288a2 2f91a~2886d 2f91b~f3f6",
  "2f91c~287d7 2f91d~b6ba 2f91e~28782 2f91f~b574 2f920~286f8 2f921~286ec 2f922~286d2 2f923~b31b",
  "2f924~286a4 2f925~28690 2f926~b1f1 2f927~b113 2f928~285ae 2f929~2859e 2f92a~2ba7e",
  "2f92b~28586 2f92c-2f92d=3eb8 2f92e~284e7 2f92f~284d3 2f930~284bf 2f931~284ac 2f932~28468",
  "2f933~2ba18 2f934~28410 2f935~acff 2f936~283f8 2f937~aca5 2f938~283c8 2f939~d79a 2f93a~2832a",
  "2f93b~a99a 2f93c~a984 2f93d~a8f9 2f93e~2b942 2f93f~2b937 2f940~2824c 2f941~a84e 2f942~a850",
  "2f943~a82a 2f944~a811 2f945-2f946~28227 2f947~28228 2f948~281fe 2f949~2b910 2f94a~281bf",
  "2f94b~2b905 2f94c~2b8b6 2f94d~a530 2f94e~28100 2f94f~280c3 2f950~28084 2f951~2b86e",
  "2f952~a32c 2f953~27ffd 2f954~a2ba 2f955~a290 2f956~27fc7 2f957~27f6c 2f958~2b829 2f959~27f19",
  "2f95a~27f10 2f95b~27f0c 2f95c~9fe0 2f95d-2f95e=25aa7 2f95f~27e71 2f960~2b75e 2f961~9db6",
  "2f962~27d9c 2f963~27d9a 2f964~2b73d 2f965~9ce5 2f966~27c94 2f967~2b6c7 2f968~27c80",
  "2f969~27c86 2f96a~27c6a 2f96b~99e5 2f96c~27c09 2f96d~2b66c 2f96e~27ba7 2f96f~27b6d",
  "2f970~27b2b 2f971~2b63d 2f972~974a 2f973~972c 2f974~2b61b 2f975~969c 2f976~279fc 2f977~9639",
  "2f978~279e3 2f979~2797f 2f97a~27975 2f97b~94a1 2f97c~9459 2f97d~2791d 2f97e~93d6 2f97f~2790f",
  "2f980~c621 2f981~2b5ac 2f982~278d0 2f983~27880 2f984~2b579 2f985~27847 2f986~29ed1",
  "2f987~91e0 2f988~91d3 2f989~c5f6 2f98a~c5ee 2f98b~2778a 2f98c~27788 2f98d~269ef 2f98e~2b523",
  "2f98f~276fe 2f990~27705 2f991~276f4 2f992~2a6df 2f993~276e2 2f994~276e1 2f995~276d8",
  "2f996~276b0 2f997~8e5b 2f998~276b3 2f999~2767c 2f99a~27637 2f99b~275ee 2f99c~27679",
  "2f99d~275e0 2f99e~275b7 2f99f~27548 2f9a0~2764d 2f9a1~275d7 2f9a2~275d6 2f9a3~275c7",
  "2f9a4~8d6e 2f9a5~8c3a 2f9a6~8cd1 2f9a7~2b47c 2f9a8~274b7 2f9a9~274b6 2f9aa~27494 2f9ab~85e1",
  "2f9ac~27448 2f9ad~8a81 2f9ae~2b451 2f9af~2b44e 2f9b0~89ff 2f9b1~88df 2f9b2~2b447 2f9b3~27363",
  "2f9b4~27358 2f9b5~2734e 2f9b6~2734d 2f9b7~2730e 2f9b8~27330 2f9b9~272ab 2f9ba~272d8",
  "2f9bb~27242 2f9bc~27294 2f9bd~27252 2f9be~27238 2f9bf~2b3e8 2f9c0~271df 2f9c1~271c0",
  "2f9c2~2b3c9 2f9c3~27163 2f9c4~27161 2f9c5~835e 2f9c6~270ef 2f9c7~270e9 2f9c8~2b393",
  "2f9c9~270cf 2f9ca~2c50f 2f9cb~811d 2f9cc~8066 2f9cd~2b30f 2f9ce~2b307 2f9cf~26f2f",
  "2f9d0~26ee3 2f9d1~26e47 2f9d2~26d7d 2f9d3~7d2b 2f9d4~26d29 2f9d5~26d14 2f9d6~26cbb",
  "2f9d7~26c60 2f9d8~7aa9 2f9d9~f1d5 2f9da~26c0f 2f9db~26c1f 2f9dc~26bec 2f9dd~f0ff 2f9de~26b0a",
  "2f9df~26aa7 2f9e0~740e 2f9e1~73f4 2f9e2~2694e 2f9e3~268f2 2f9e4~268d3 2f9e5~72b7 2f9e6~268cb",
  "2f9e7~267af 2f9e8-2f9e9~26711 2f9ea~2676e 2f9eb~265f2 2f9ec~265d7 2f9ed~6df3 2f9ee~26463",
  "2f9ef~2b05a 2f9f0~26439 2f9f1~6c7a 2f9f2~2b00c 2f9f3~26330 2f9f4~29c42 2f9f5~262d2",
  "2f9f6~68b1 2f9f7~67dd 2f9f8~2af8a 2f9f9~2af83 2f9fa~2621a 2f9fb~65f1 2f9fc~2af4a 2f9fd~6567",
  "2f9fe-2f9ff=980b 2fa00~261d7 2fa01~644b 2fa02~26120 2fa03~2aed0 2fa04~260db 2fa05~2605e",
  "2fa06~26044 2fa07~26009 2fa08~2ae3a 2fa09~5ed9 2fa0a~25ef8 2fa0b~25dcb 2fa0c~25d0f",
  "2fa0d~2ad3f 2fa0e~2ad21 2fa0f~25ca8 2fa10~5942 2fa11~2ad19 2fa12~590d 2fa13~5805 2fa14~5783",
  "2fa15~25b5a 2fa16~2acc0 2fa17~25b1e 2fa18~25b1a 2fa19~25b14 2fa1a~25b0b 2fa1b~25b05",
  "2fa1c~25ae1 2fa1d~541d 2fa1e-2ffff 3134b-3134f 3347a-e00ff e0100-e01ef= e01f0-10ffff"]

/-- What becomes of one character from U+0080 on, if it may occur. -/
def mapChar? (c : Char) : Option (List Char) :=
  match table.find? c.toNat with
  | none => some [c]
  | some row =>
    match row.value with
    | .disallowed => none
    | .replaced chars => some chars
    | .raised distance => some [Char.ofNat (c.toNat + distance)]
    | .lowered distance => some [Char.ofNat (c.toNat - distance)]
    | .alternating =>
      if (c.toNat - row.first) % 2 = 0 then some [Char.ofNat (c.toNat + 1)] else some [c]

end Mapping

end Reachability.Domain
