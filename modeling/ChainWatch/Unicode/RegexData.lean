/-!
# Character data for regular expressions

General categories, scripts, binary properties, simple case folding and the names of properties
and of their values, Unicode 17.0 for the code points and 16.0 for the names, as text: records
separated by `;`, fields by `,`, code points in hexadecimal.
-/

namespace ChainWatch

namespace Unicode

/-- The general category of every code point, by ranges. -/
def generalCategoryText : String :=
  "0,Cc;20,Zs;21,Po;24,Sc;25,Po;28,Ps;29,Pe;2A,Po;2B,Sm;2C,Po;2D,Pd;2E,Po;30,Nd;3A,Po;3C,Sm;3F,Po;41,Lu;5B,Ps;5C,Po;5D,Pe;5E,Sk;5F,Pc;60,Sk;61,Ll;7B,Ps;7C,Sm;7D,Pe;7E,Sm;7F,Cc;A0,Zs;A1,Po;A2,Sc;A6,So;A7,Po;A8,Sk;A9,So;AA,Lo;AB,Pi;AC,Sm;AD,Cf;AE,So;AF,Sk;B0,So;B1,Sm;B2,No;B4,Sk;B5,Ll;B6,Po;B8,Sk;B9,No;BA,Lo;BB,Pf;BC,No;BF,Po;C0,Lu;D7,Sm;D8,Lu;DF,Ll;F7,Sm;F8,Ll;100,Lu;101,Ll;102,Lu;103,Ll;104,Lu;105,Ll;106,Lu;107,Ll;108,Lu;109,Ll;10A,Lu;10B,Ll;10C,Lu;10D,Ll;10E,Lu;10F,Ll;110,Lu;111,Ll;112,Lu;113,Ll;114,Lu;115,Ll;116,Lu;117,Ll;118,Lu;119,Ll;11A,Lu;11B,Ll;11C,Lu;11D,Ll;11E,Lu;11F,Ll;120,Lu;121,Ll;122,Lu;123,Ll;124,Lu;125,Ll;126,Lu;127,Ll;128,Lu;129,Ll;12A,Lu;12B,Ll;12C,Lu;12D,Ll;12E,Lu;12F,Ll;130,Lu;131,Ll;132,Lu;133,Ll;134,Lu;135,Ll;136,Lu;137,Ll;139,Lu;13A,Ll;13B,Lu;13C,Ll;13D,Lu;13E,Ll;13F,Lu;140,Ll;141,Lu;142,Ll;143,Lu;144,Ll;145,Lu;146,Ll;147,Lu;148,Ll;14A,Lu;14B,Ll;14C,Lu;14D,Ll;14E,Lu;14F,Ll;150,Lu;151,Ll;152,Lu;153,Ll;154,Lu;155,Ll;156,Lu;157,Ll;158,Lu;159,Ll;15A,Lu;15B,Ll;15C,Lu;15D,Ll;15E,Lu;15F,Ll;160,Lu;161,Ll;162,Lu;163,Ll;164,Lu;165,Ll;166,Lu;167,Ll;168,Lu;169,Ll;16A,Lu;16B,Ll;16C,Lu;16D,Ll;16E,Lu;16F,Ll;170,Lu;171,Ll;172,Lu;173,Ll;174,Lu;175,Ll;176,Lu;177,Ll;178,Lu;17A,Ll;17B,Lu;17C,Ll;17D,Lu;17E,Ll;181,Lu;183,Ll;184,Lu;185,Ll;186,Lu;188,Ll;189,Lu;18C,Ll;18E,Lu;192,Ll;193,Lu;195,Ll;196,Lu;199,Ll;19C,Lu;19E,Ll;19F,Lu;1A1,Ll;1A2,Lu;1A3,Ll;1A4,Lu;1A5,Ll;1A6,Lu;1A8,Ll;1A9,Lu;1AA,Ll;1AC,Lu;1AD,Ll;1AE,Lu;1B0,Ll;1B1,Lu;1B4,Ll;1B5,Lu;1B6,Ll;1B7,Lu;1B9,Ll;1BB,Lo;1BC,Lu;1BD,Ll;1C0,Lo;1C4,Lu;1C5,Lt;1C6,Ll;1C7,Lu;1C8,Lt;1C9,Ll;1CA,Lu;1CB,Lt;1CC,Ll;1CD,Lu;1CE,Ll;1CF,Lu;1D0,Ll;1D1,Lu;1D2,Ll;1D3,Lu;1D4,Ll;1D5,Lu;1D6,Ll;1D7,Lu;1D8,Ll;1D9,Lu;1DA,Ll;1DB,Lu;1DC,Ll;1DE,Lu;1DF,Ll;1E0,Lu;1E1,Ll;1E2,Lu;1E3,Ll;1E4,Lu;1E5,Ll;1E6,Lu;1E7,Ll;1E8,Lu;1E9,Ll;1EA,Lu;1EB,Ll;1EC,Lu;1ED,Ll;1EE,Lu;1EF,Ll;1F1,Lu;1F2,Lt;1F3,Ll;1F4,Lu;1F5,Ll;1F6,Lu;1F9,Ll;1FA,Lu;1FB,Ll;1FC,Lu;1FD,Ll;1FE,Lu;1FF,Ll;200,Lu;201,Ll;202,Lu;203,Ll;204,Lu;205,Ll;206,Lu;207,Ll;208,Lu;209,Ll;20A,Lu;20B,Ll;20C,Lu;20D,Ll;20E,Lu;20F,Ll;210,Lu;211,Ll;212,Lu;213,Ll;214,Lu;215,Ll;216,Lu;217,Ll;218,Lu;219,Ll;21A,Lu;21B,Ll;21C,Lu;21D,Ll;21E,Lu;21F,Ll;220,Lu;221,Ll;222,Lu;223,Ll;224,Lu;225,Ll;226,Lu;227,Ll;228,Lu;229,Ll;22A,Lu;22B,Ll;22C,Lu;22D,Ll;22E,Lu;22F,Ll;230,Lu;231,Ll;232,Lu;233,Ll;23A,Lu;23C,Ll;23D,Lu;23F,Ll;241,Lu;242,Ll;243,Lu;247,Ll;248,Lu;249,Ll;24A,Lu;24B,Ll;24C,Lu;24D,Ll;24E,Lu;24F,Ll;294,Lo;296,Ll;2B0,Lm;2C2,Sk;2C6,Lm;2D2,Sk;2E0,Lm;2E5,Sk;2EC,Lm;2ED,Sk;2EE,Lm;2EF,Sk;300,Mn;370,Lu;371,Ll;372,Lu;373,Ll;374,Lm;375,Sk;376,Lu;377,Ll;378,Cn;37A,Lm;37B,Ll;37E,Po;37F,Lu;380,Cn;384,Sk;386,Lu;387,Po;388,Lu;38B,Cn;38C,Lu;38D,Cn;38E,Lu;390,Ll;391,Lu;3A2,Cn;3A3,Lu;3AC,Ll;3CF,Lu;3D0,Ll;3D2,Lu;3D5,Ll;3D8,Lu;3D9,Ll;3DA,Lu;3DB,Ll;3DC,Lu;3DD,Ll;3DE,Lu;3DF,Ll;3E0,Lu;3E1,Ll;3E2,Lu;3E3,Ll;3E4,Lu;3E5,Ll;3E6,Lu;3E7,Ll;3E8,Lu;3E9,Ll;3EA,Lu;3EB,Ll;3EC,Lu;3ED,Ll;3EE,Lu;3EF,Ll;3F4,Lu;3F5,Ll;3F6,Sm;3F7,Lu;3F8,Ll;3F9,Lu;3FB,Ll;3FD,Lu;430,Ll;460,Lu;461,Ll;462,Lu;463,Ll;464,Lu;465,Ll;466,Lu;467,Ll;468,Lu;469,Ll;46A,Lu;46B,Ll;46C,Lu;46D,Ll;46E,Lu;46F,Ll;470,Lu;471,Ll;472,Lu;473,Ll;474,Lu;475,Ll;476,Lu;477,Ll;478,Lu;479,Ll;47A,Lu;47B,Ll;47C,Lu;47D,Ll;47E,Lu;47F,Ll;480,Lu;481,Ll;482,So;483,Mn;488,Me;48A,Lu;48B,Ll;48C,Lu;48D,Ll;48E,Lu;48F,Ll;490,Lu;491,Ll;492,Lu;493,Ll;494,Lu;495,Ll;496,Lu;497,Ll;498,Lu;499,Ll;49A,Lu;49B,Ll;49C,Lu;49D,Ll;49E,Lu;49F,Ll;4A0,Lu;4A1,Ll;4A2,Lu;4A3,Ll;4A4,Lu;4A5,Ll;4A6,Lu;4A7,Ll;4A8,Lu;4A9,Ll;4AA,Lu;4AB,Ll;4AC,Lu;4AD,Ll;4AE,Lu;4AF,Ll;4B0,Lu;4B1,Ll;4B2,Lu;4B3,Ll;4B4,Lu;4B5,Ll;4B6,Lu;4B7,Ll;4B8,Lu;4B9,Ll;4BA,Lu;4BB,Ll;4BC,Lu;4BD,Ll;4BE,Lu;4BF,Ll;4C0,Lu;4C2,Ll;4C3,Lu;4C4,Ll;4C5,Lu;4C6,Ll;4C7,Lu;4C8,Ll;4C9,Lu;4CA,Ll;4CB,Lu;4CC,Ll;4CD,Lu;4CE,Ll;4D0,Lu;4D1,Ll;4D2,Lu;4D3,Ll;4D4,Lu;4D5,Ll;4D6,Lu;4D7,Ll;4D8,Lu;4D9,Ll;4DA,Lu;4DB,Ll;4DC,Lu;4DD,Ll;4DE,Lu;4DF,Ll;4E0,Lu;4E1,Ll;4E2,Lu;4E3,Ll;4E4,Lu;4E5,Ll;4E6,Lu;4E7,Ll;4E8,Lu;4E9,Ll;4EA,Lu;4EB,Ll;4EC,Lu;4ED,Ll;4EE,Lu;4EF,Ll;4F0,Lu;4F1,Ll;4F2,Lu;4F3,Ll;4F4,Lu;4F5,Ll;4F6,Lu;4F7,Ll;4F8,Lu;4F9,Ll;4FA,Lu;4FB,Ll;4FC,Lu;4FD,Ll;4FE,Lu;4FF,Ll;500,Lu;501,Ll;502,Lu;503,Ll;504,Lu;505,Ll;506,Lu;507,Ll;508,Lu;509,Ll;50A,Lu;50B,Ll;50C,Lu;50D,Ll;50E,Lu;50F,Ll;510,Lu;511,Ll;512,Lu;513,Ll;514,Lu;515,Ll;516,Lu;517,Ll;518,Lu;519,Ll;51A,Lu;51B,Ll;51C,Lu;51D,Ll;51E,Lu;51F,Ll;520,Lu;521,Ll;522,Lu;523,Ll;524,Lu;525,Ll;526,Lu;527,Ll;528,Lu;529,Ll;52A,Lu;52B,Ll;52C,Lu;52D,Ll;52E,Lu;52F,Ll;530,Cn;531,Lu;557,Cn;559,Lm;55A,Po;560,Ll;589,Po;58A,Pd;58B,Cn;58D,So;58F,Sc;590,Cn;591,Mn;5BE,Pd;5BF,Mn;5C0,Po;5C1,Mn;5C3,Po;5C4,Mn;5C6,Po;5C7,Mn;5C8,Cn;5D0,Lo;5EB,Cn;5EF,Lo;5F3,Po;5F5,Cn;600,Cf;606,Sm;609,Po;60B,Sc;60C,Po;60E,So;610,Mn;61B,Po;61C,Cf;61D,Po;620,Lo;640,Lm;641,Lo;64B,Mn;660,Nd;66A,Po;66E,Lo;670,Mn;671,Lo;6D4,Po;6D5,Lo;6D6,Mn;6DD,Cf;6DE,So;6DF,Mn;6E5,Lm;6E7,Mn;6E9,So;6EA,Mn;6EE,Lo;6F0,Nd;6FA,Lo;6FD,So;6FF,Lo;700,Po;70E,Cn;70F,Cf;710,Lo;711,Mn;712,Lo;730,Mn;74B,Cn;74D,Lo;7A6,Mn;7B1,Lo;7B2,Cn;7C0,Nd;7CA,Lo;7EB,Mn;7F4,Lm;7F6,So;7F7,Po;7FA,Lm;7FB,Cn;7FD,Mn;7FE,Sc;800,Lo;816,Mn;81A,Lm;81B,Mn;824,Lm;825,Mn;828,Lm;829,Mn;82E,Cn;830,Po;83F,Cn;840,Lo;859,Mn;85C,Cn;85E,Po;85F,Cn;860,Lo;86B,Cn;870,Lo;888,Sk;889,Lo;890,Cf;892,Cn;897,Mn;8A0,Lo;8C9,Lm;8CA,Mn;8E2,Cf;8E3,Mn;903,Mc;904,Lo;93A,Mn;93B,Mc;93C,Mn;93D,Lo;93E,Mc;941,Mn;949,Mc;94D,Mn;94E,Mc;950,Lo;951,Mn;958,Lo;962,Mn;964,Po;966,Nd;970,Po;971,Lm;972,Lo;981,Mn;982,Mc;984,Cn;985,Lo;98D,Cn;98F,Lo;991,Cn;993,Lo;9A9,Cn;9AA,Lo;9B1,Cn;9B2,Lo;9B3,Cn;9B6,Lo;9BA,Cn;9BC,Mn;9BD,Lo;9BE,Mc;9C1,Mn;9C5,Cn;9C7,Mc;9C9,Cn;9CB,Mc;9CD,Mn;9CE,Lo;9CF,Cn;9D7,Mc;9D8,Cn;9DC,Lo;9DE,Cn;9DF,Lo;9E2,Mn;9E4,Cn;9E6,Nd;9F0,Lo;9F2,Sc;9F4,No;9FA,So;9FB,Sc;9FC,Lo;9FD,Po;9FE,Mn;9FF,Cn;A01,Mn;A03,Mc;A04,Cn;A05,Lo;A0B,Cn;A0F,Lo;A11,Cn;A13,Lo;A29,Cn;A2A,Lo;A31,Cn;A32,Lo;A34,Cn;A35,Lo;A37,Cn;A38,Lo;A3A,Cn;A3C,Mn;A3D,Cn;A3E,Mc;A41,Mn;A43,Cn;A47,Mn;A49,Cn;A4B,Mn;A4E,Cn;A51,Mn;A52,Cn;A59,Lo;A5D,Cn;A5E,Lo;A5F,Cn;A66,Nd;A70,Mn;A72,Lo;A75,Mn;A76,Po;A77,Cn;A81,Mn;A83,Mc;A84,Cn;A85,Lo;A8E,Cn;A8F,Lo;A92,Cn;A93,Lo;AA9,Cn;AAA,Lo;AB1,Cn;AB2,Lo;AB4,Cn;AB5,Lo;ABA,Cn;ABC,Mn;ABD,Lo;ABE,Mc;AC1,Mn;AC6,Cn;AC7,Mn;AC9,Mc;ACA,Cn;ACB,Mc;ACD,Mn;ACE,Cn;AD0,Lo;AD1,Cn;AE0,Lo;AE2,Mn;AE4,Cn;AE6,Nd;AF0,Po;AF1,Sc;AF2,Cn;AF9,Lo;AFA,Mn;B00,Cn;B01,Mn;B02,Mc;B04,Cn;B05,Lo;B0D,Cn;B0F,Lo;B11,Cn;B13,Lo;B29,Cn;B2A,Lo;B31,Cn;B32,Lo;B34,Cn;B35,Lo;B3A,Cn;B3C,Mn;B3D,Lo;B3E,Mc;B3F,Mn;B40,Mc;B41,Mn;B45,Cn;B47,Mc;B49,Cn;B4B,Mc;B4D,Mn;B4E,Cn;B55,Mn;B57,Mc;B58,Cn;B5C,Lo;B5E,Cn;B5F,Lo;B62,Mn;B64,Cn;B66,Nd;B70,So;B71,Lo;B72,No;B78,Cn;B82,Mn;B83,Lo;B84,Cn;B85,Lo;B8B,Cn;B8E,Lo;B91,Cn;B92,Lo;B96,Cn;B99,Lo;B9B,Cn;B9C,Lo;B9D,Cn;B9E,Lo;BA0,Cn;BA3,Lo;BA5,Cn;BA8,Lo;BAB,Cn;BAE,Lo;BBA,Cn;BBE,Mc;BC0,Mn;BC1,Mc;BC3,Cn;BC6,Mc;BC9,Cn;BCA,Mc;BCD,Mn;BCE,Cn;BD0,Lo;BD1,Cn;BD7,Mc;BD8,Cn;BE6,Nd;BF0,No;BF3,So;BF9,Sc;BFA,So;BFB,Cn;C00,Mn;C01,Mc;C04,Mn;C05,Lo;C0D,Cn;C0E,Lo;C11,Cn;C12,Lo;C29,Cn;C2A,Lo;C3A,Cn;C3C,Mn;C3D,Lo;C3E,Mn;C41,Mc;C45,Cn;C46,Mn;C49,Cn;C4A,Mn;C4E,Cn;C55,Mn;C57,Cn;C58,Lo;C5B,Cn;C5C,Lo;C5E,Cn;C60,Lo;C62,Mn;C64,Cn;C66,Nd;C70,Cn;C77,Po;C78,No;C7F,So;C80,Lo;C81,Mn;C82,Mc;C84,Po;C85,Lo;C8D,Cn;C8E,Lo;C91,Cn;C92,Lo;CA9,Cn;CAA,Lo;CB4,Cn;CB5,Lo;CBA,Cn;CBC,Mn;CBD,Lo;CBE,Mc;CBF,Mn;CC0,Mc;CC5,Cn;CC6,Mn;CC7,Mc;CC9,Cn;CCA,Mc;CCC,Mn;CCE,Cn;CD5,Mc;CD7,Cn;CDC,Lo;CDF,Cn;CE0,Lo;CE2,Mn;CE4,Cn;CE6,Nd;CF0,Cn;CF1,Lo;CF3,Mc;CF4,Cn;D00,Mn;D02,Mc;D04,Lo;D0D,Cn;D0E,Lo;D11,Cn;D12,Lo;D3B,Mn;D3D,Lo;D3E,Mc;D41,Mn;D45,Cn;D46,Mc;D49,Cn;D4A,Mc;D4D,Mn;D4E,Lo;D4F,So;D50,Cn;D54,Lo;D57,Mc;D58,No;D5F,Lo;D62,Mn;D64,Cn;D66,Nd;D70,No;D79,So;D7A,Lo;D80,Cn;D81,Mn;D82,Mc;D84,Cn;D85,Lo;D97,Cn;D9A,Lo;DB2,Cn;DB3,Lo;DBC,Cn;DBD,Lo;DBE,Cn;DC0,Lo;DC7,Cn;DCA,Mn;DCB,Cn;DCF,Mc;DD2,Mn;DD5,Cn;DD6,Mn;DD7,Cn;DD8,Mc;DE0,Cn;DE6,Nd;DF0,Cn;DF2,Mc;DF4,Po;DF5,Cn;E01,Lo;E31,Mn;E32,Lo;E34,Mn;E3B,Cn;E3F,Sc;E40,Lo;E46,Lm;E47,Mn;E4F,Po;E50,Nd;E5A,Po;E5C,Cn;E81,Lo;E83,Cn;E84,Lo;E85,Cn;E86,Lo;E8B,Cn;E8C,Lo;EA4,Cn;EA5,Lo;EA6,Cn;EA7,Lo;EB1,Mn;EB2,Lo;EB4,Mn;EBD,Lo;EBE,Cn;EC0,Lo;EC5,Cn;EC6,Lm;EC7,Cn;EC8,Mn;ECF,Cn;ED0,Nd;EDA,Cn;EDC,Lo;EE0,Cn;F00,Lo;F01,So;F04,Po;F13,So;F14,Po;F15,So;F18,Mn;F1A,So;F20,Nd;F2A,No;F34,So;F35,Mn;F36,So;F37,Mn;F38,So;F39,Mn;F3A,Ps;F3B,Pe;F3C,Ps;F3D,Pe;F3E,Mc;F40,Lo;F48,Cn;F49,Lo;F6D,Cn;F71,Mn;F7F,Mc;F80,Mn;F85,Po;F86,Mn;F88,Lo;F8D,Mn;F98,Cn;F99,Mn;FBD,Cn;FBE,So;FC6,Mn;FC7,So;FCD,Cn;FCE,So;FD0,Po;FD5,So;FD9,Po;FDB,Cn;1000,Lo;102B,Mc;102D,Mn;1031,Mc;1032,Mn;1038,Mc;1039,Mn;103B,Mc;103D,Mn;103F,Lo;1040,Nd;104A,Po;1050,Lo;1056,Mc;1058,Mn;105A,Lo;105E,Mn;1061,Lo;1062,Mc;1065,Lo;1067,Mc;106E,Lo;1071,Mn;1075,Lo;1082,Mn;1083,Mc;1085,Mn;1087,Mc;108D,Mn;108E,Lo;108F,Mc;1090,Nd;109A,Mc;109D,Mn;109E,So;10A0,Lu;10C6,Cn;10C7,Lu;10C8,Cn;10CD,Lu;10CE,Cn;10D0,Ll;10FB,Po;10FC,Lm;10FD,Ll;1100,Lo;1249,Cn;124A,Lo;124E,Cn;1250,Lo;1257,Cn;1258,Lo;1259,Cn;125A,Lo;125E,Cn;1260,Lo;1289,Cn;128A,Lo;128E,Cn;1290,Lo;12B1,Cn;12B2,Lo;12B6,Cn;12B8,Lo;12BF,Cn;12C0,Lo;12C1,Cn;12C2,Lo;12C6,Cn;12C8,Lo;12D7,Cn;12D8,Lo;1311,Cn;1312,Lo;1316,Cn;1318,Lo;135B,Cn;135D,Mn;1360,Po;1369,No;137D,Cn;1380,Lo;1390,So;139A,Cn;13A0,Lu;13F6,Cn;13F8,Ll;13FE,Cn;1400,Pd;1401,Lo;166D,So;166E,Po;166F,Lo;1680,Zs;1681,Lo;169B,Ps;169C,Pe;169D,Cn;16A0,Lo;16EB,Po;16EE,Nl;16F1,Lo;16F9,Cn;1700,Lo;1712,Mn;1715,Mc;1716,Cn;171F,Lo;1732,Mn;1734,Mc;1735,Po;1737,Cn;1740,Lo;1752,Mn;1754,Cn;1760,Lo;176D,Cn;176E,Lo;1771,Cn;1772,Mn;1774,Cn;1780,Lo;17B4,Mn;17B6,Mc;17B7,Mn;17BE,Mc;17C6,Mn;17C7,Mc;17C9,Mn;17D4,Po;17D7,Lm;17D8,Po;17DB,Sc;17DC,Lo;17DD,Mn;17DE,Cn;17E0,Nd;17EA,Cn;17F0,No;17FA,Cn;1800,Po;1806,Pd;1807,Po;180B,Mn;180E,Cf;180F,Mn;1810,Nd;181A,Cn;1820,Lo;1843,Lm;1844,Lo;1879,Cn;1880,Lo;1885,Mn;1887,Lo;18A9,Mn;18AA,Lo;18AB,Cn;18B0,Lo;18F6,Cn;1900,Lo;191F,Cn;1920,Mn;1923,Mc;1927,Mn;1929,Mc;192C,Cn;1930,Mc;1932,Mn;1933,Mc;1939,Mn;193C,Cn;1940,So;1941,Cn;1944,Po;1946,Nd;1950,Lo;196E,Cn;1970,Lo;1975,Cn;1980,Lo;19AC,Cn;19B0,Lo;19CA,Cn;19D0,Nd;19DA,No;19DB,Cn;19DE,So;1A00,Lo;1A17,Mn;1A19,Mc;1A1B,Mn;1A1C,Cn;1A1E,Po;1A20,Lo;1A55,Mc;1A56,Mn;1A57,Mc;1A58,Mn;1A5F,Cn;1A60,Mn;1A61,Mc;1A62,Mn;1A63,Mc;1A65,Mn;1A6D,Mc;1A73,Mn;1A7D,Cn;1A7F,Mn;1A80,Nd;1A8A,Cn;1A90,Nd;1A9A,Cn;1AA0,Po;1AA7,Lm;1AA8,Po;1AAE,Cn;1AB0,Mn;1ABE,Me;1ABF,Mn;1ADE,Cn;1AE0,Mn;1AEC,Cn;1B00,Mn;1B04,Mc;1B05,Lo;1B34,Mn;1B35,Mc;1B36,Mn;1B3B,Mc;1B3C,Mn;1B3D,Mc;1B42,Mn;1B43,Mc;1B45,Lo;1B4D,Cn;1B4E,Po;1B50,Nd;1B5A,Po;1B61,So;1B6B,Mn;1B74,So;1B7D,Po;1B80,Mn;1B82,Mc;1B83,Lo;1BA1,Mc;1BA2,Mn;1BA6,Mc;1BA8,Mn;1BAA,Mc;1BAB,Mn;1BAE,Lo;1BB0,Nd;1BBA,Lo;1BE6,Mn;1BE7,Mc;1BE8,Mn;1BEA,Mc;1BED,Mn;1BEE,Mc;1BEF,Mn;1BF2,Mc;1BF4,Cn;1BFC,Po;1C00,Lo;1C24,Mc;1C2C,Mn;1C34,Mc;1C36,Mn;1C38,Cn;1C3B,Po;1C40,Nd;1C4A,Cn;1C4D,Lo;1C50,Nd;1C5A,Lo;1C78,Lm;1C7E,Po;1C80,Ll;1C89,Lu;1C8A,Ll;1C8B,Cn;1C90,Lu;1CBB,Cn;1CBD,Lu;1CC0,Po;1CC8,Cn;1CD0,Mn;1CD3,Po;1CD4,Mn;1CE1,Mc;1CE2,Mn;1CE9,Lo;1CED,Mn;1CEE,Lo;1CF4,Mn;1CF5,Lo;1CF7,Mc;1CF8,Mn;1CFA,Lo;1CFB,Cn;1D00,Ll;1D2C,Lm;1D6B,Ll;1D78,Lm;1D79,Ll;1D9B,Lm;1DC0,Mn;1E00,Lu;1E01,Ll;1E02,Lu;1E03,Ll;1E04,Lu;1E05,Ll;1E06,Lu;1E07,Ll;1E08,Lu;1E09,Ll;1E0A,Lu;1E0B,Ll;1E0C,Lu;1E0D,Ll;1E0E,Lu;1E0F,Ll;1E10,Lu;1E11,Ll;1E12,Lu;1E13,Ll;1E14,Lu;1E15,Ll;1E16,Lu;1E17,Ll;1E18,Lu;1E19,Ll;1E1A,Lu;1E1B,Ll;1E1C,Lu;1E1D,Ll;1E1E,Lu;1E1F,Ll;1E20,Lu;1E21,Ll;1E22,Lu;1E23,Ll;1E24,Lu;1E25,Ll;1E26,Lu;1E27,Ll;1E28,Lu;1E29,Ll;1E2A,Lu;1E2B,Ll;1E2C,Lu;1E2D,Ll;1E2E,Lu;1E2F,Ll;1E30,Lu;1E31,Ll;1E32,Lu;1E33,Ll;1E34,Lu;1E35,Ll;1E36,Lu;1E37,Ll;1E38,Lu;1E39,Ll;1E3A,Lu;1E3B,Ll;1E3C,Lu;1E3D,Ll;1E3E,Lu;1E3F,Ll;1E40,Lu;1E41,Ll;1E42,Lu;1E43,Ll;1E44,Lu;1E45,Ll;1E46,Lu;1E47,Ll;1E48,Lu;1E49,Ll;1E4A,Lu;1E4B,Ll;1E4C,Lu;1E4D,Ll;1E4E,Lu;1E4F,Ll;1E50,Lu;1E51,Ll;1E52,Lu;1E53,Ll;1E54,Lu;1E55,Ll;1E56,Lu;1E57,Ll;1E58,Lu;1E59,Ll;1E5A,Lu;1E5B,Ll;1E5C,Lu;1E5D,Ll;1E5E,Lu;1E5F,Ll;1E60,Lu;1E61,Ll;1E62,Lu;1E63,Ll;1E64,Lu;1E65,Ll;1E66,Lu;1E67,Ll;1E68,Lu;1E69,Ll;1E6A,Lu;1E6B,Ll;1E6C,Lu;1E6D,Ll;1E6E,Lu;1E6F,Ll;1E70,Lu;1E71,Ll;1E72,Lu;1E73,Ll;1E74,Lu;1E75,Ll;1E76,Lu;1E77,Ll;1E78,Lu;1E79,Ll;1E7A,Lu;1E7B,Ll;1E7C,Lu;1E7D,Ll;1E7E,Lu;1E7F,Ll;1E80,Lu;1E81,Ll;1E82,Lu;1E83,Ll;1E84,Lu;1E85,Ll;1E86,Lu;1E87,Ll;1E88,Lu;1E89,Ll;1E8A,Lu;1E8B,Ll;1E8C,Lu;1E8D,Ll;1E8E,Lu;1E8F,Ll;1E90,Lu;1E91,Ll;1E92,Lu;1E93,Ll;1E94,Lu;1E95,Ll;1E9E,Lu;1E9F,Ll;1EA0,Lu;1EA1,Ll;1EA2,Lu;1EA3,Ll;1EA4,Lu;1EA5,Ll;1EA6,Lu;1EA7,Ll;1EA8,Lu;1EA9,Ll;1EAA,Lu;1EAB,Ll;1EAC,Lu;1EAD,Ll;1EAE,Lu;1EAF,Ll;1EB0,Lu;1EB1,Ll;1EB2,Lu;1EB3,Ll;1EB4,Lu;1EB5,Ll;1EB6,Lu;1EB7,Ll;1EB8,Lu;1EB9,Ll;1EBA,Lu;1EBB,Ll;1EBC,Lu;1EBD,Ll;1EBE,Lu;1EBF,Ll;1EC0,Lu;1EC1,Ll;1EC2,Lu;1EC3,Ll;1EC4,Lu;1EC5,Ll;1EC6,Lu;1EC7,Ll;1EC8,Lu;1EC9,Ll;1ECA,Lu;1ECB,Ll;1ECC,Lu;1ECD,Ll;1ECE,Lu;1ECF,Ll;1ED0,Lu;1ED1,Ll;1ED2,Lu;1ED3,Ll;1ED4,Lu;1ED5,Ll;1ED6,Lu;1ED7,Ll;1ED8,Lu;1ED9,Ll;1EDA,Lu;1EDB,Ll;1EDC,Lu;1EDD,Ll;1EDE,Lu;1EDF,Ll;1EE0,Lu;1EE1,Ll;1EE2,Lu;1EE3,Ll;1EE4,Lu;1EE5,Ll;1EE6,Lu;1EE7,Ll;1EE8,Lu;1EE9,Ll;1EEA,Lu;1EEB,Ll;1EEC,Lu;1EED,Ll;1EEE,Lu;1EEF,Ll;1EF0,Lu;1EF1,Ll;1EF2,Lu;1EF3,Ll;1EF4,Lu;1EF5,Ll;1EF6,Lu;1EF7,Ll;1EF8,Lu;1EF9,Ll;1EFA,Lu;1EFB,Ll;1EFC,Lu;1EFD,Ll;1EFE,Lu;1EFF,Ll;1F08,Lu;1F10,Ll;1F16,Cn;1F18,Lu;1F1E,Cn;1F20,Ll;1F28,Lu;1F30,Ll;1F38,Lu;1F40,Ll;1F46,Cn;1F48,Lu;1F4E,Cn;1F50,Ll;1F58,Cn;1F59,Lu;1F5A,Cn;1F5B,Lu;1F5C,Cn;1F5D,Lu;1F5E,Cn;1F5F,Lu;1F60,Ll;1F68,Lu;1F70,Ll;1F7E,Cn;1F80,Ll;1F88,Lt;1F90,Ll;1F98,Lt;1FA0,Ll;1FA8,Lt;1FB0,Ll;1FB5,Cn;1FB6,Ll;1FB8,Lu;1FBC,Lt;1FBD,Sk;1FBE,Ll;1FBF,Sk;1FC2,Ll;1FC5,Cn;1FC6,Ll;1FC8,Lu;1FCC,Lt;1FCD,Sk;1FD0,Ll;1FD4,Cn;1FD6,Ll;1FD8,Lu;1FDC,Cn;1FDD,Sk;1FE0,Ll;1FE8,Lu;1FED,Sk;1FF0,Cn;1FF2,Ll;1FF5,Cn;1FF6,Ll;1FF8,Lu;1FFC,Lt;1FFD,Sk;1FFF,Cn;2000,Zs;200B,Cf;2010,Pd;2016,Po;2018,Pi;2019,Pf;201A,Ps;201B,Pi;201D,Pf;201E,Ps;201F,Pi;2020,Po;2028,Zl;2029,Zp;202A,Cf;202F,Zs;2030,Po;2039,Pi;203A,Pf;203B,Po;203F,Pc;2041,Po;2044,Sm;2045,Ps;2046,Pe;2047,Po;2052,Sm;2053,Po;2054,Pc;2055,Po;205F,Zs;2060,Cf;2065,Cn;2066,Cf;2070,No;2071,Lm;2072,Cn;2074,No;207A,Sm;207D,Ps;207E,Pe;207F,Lm;2080,No;208A,Sm;208D,Ps;208E,Pe;208F,Cn;2090,Lm;209D,Cn;20A0,Sc;20C2,Cn;20D0,Mn;20DD,Me;20E1,Mn;20E2,Me;20E5,Mn;20F1,Cn;2100,So;2102,Lu;2103,So;2107,Lu;2108,So;210A,Ll;210B,Lu;210E,Ll;2110,Lu;2113,Ll;2114,So;2115,Lu;2116,So;2118,Sm;2119,Lu;211E,So;2124,Lu;2125,So;2126,Lu;2127,So;2128,Lu;2129,So;212A,Lu;212E,So;212F,Ll;2130,Lu;2134,Ll;2135,Lo;2139,Ll;213A,So;213C,Ll;213E,Lu;2140,Sm;2145,Lu;2146,Ll;214A,So;214B,Sm;214C,So;214E,Ll;214F,So;2150,No;2160,Nl;2183,Lu;2184,Ll;2185,Nl;2189,No;218A,So;218C,Cn;2190,Sm;2195,So;219A,Sm;219C,So;21A0,Sm;21A1,So;21A3,Sm;21A4,So;21A6,Sm;21A7,So;21AE,Sm;21AF,So;21CE,Sm;21D0,So;21D2,Sm;21D3,So;21D4,Sm;21D5,So;21F4,Sm;2300,So;2308,Ps;2309,Pe;230A,Ps;230B,Pe;230C,So;2320,Sm;2322,So;2329,Ps;232A,Pe;232B,So;237C,Sm;237D,So;239B,Sm;23B4,So;23DC,Sm;23E2,So;242A,Cn;2440,So;244B,Cn;2460,No;249C,So;24EA,No;2500,So;25B7,Sm;25B8,So;25C1,Sm;25C2,So;25F8,Sm;2600,So;266F,Sm;2670,So;2768,Ps;2769,Pe;276A,Ps;276B,Pe;276C,Ps;276D,Pe;276E,Ps;276F,Pe;2770,Ps;2771,Pe;2772,Ps;2773,Pe;2774,Ps;2775,Pe;2776,No;2794,So;27C0,Sm;27C5,Ps;27C6,Pe;27C7,Sm;27E6,Ps;27E7,Pe;27E8,Ps;27E9,Pe;27EA,Ps;27EB,Pe;27EC,Ps;27ED,Pe;27EE,Ps;27EF,Pe;27F0,Sm;2800,So;2900,Sm;2983,Ps;2984,Pe;2985,Ps;2986,Pe;2987,Ps;2988,Pe;2989,Ps;298A,Pe;298B,Ps;298C,Pe;298D,Ps;298E,Pe;298F,Ps;2990,Pe;2991,Ps;2992,Pe;2993,Ps;2994,Pe;2995,Ps;2996,Pe;2997,Ps;2998,Pe;2999,Sm;29D8,Ps;29D9,Pe;29DA,Ps;29DB,Pe;29DC,Sm;29FC,Ps;29FD,Pe;29FE,Sm;2B00,So;2B30,Sm;2B45,So;2B47,Sm;2B4D,So;2B74,Cn;2B76,So;2C00,Lu;2C30,Ll;2C60,Lu;2C61,Ll;2C62,Lu;2C65,Ll;2C67,Lu;2C68,Ll;2C69,Lu;2C6A,Ll;2C6B,Lu;2C6C,Ll;2C6D,Lu;2C71,Ll;2C72,Lu;2C73,Ll;2C75,Lu;2C76,Ll;2C7C,Lm;2C7E,Lu;2C81,Ll;2C82,Lu;2C83,Ll;2C84,Lu;2C85,Ll;2C86,Lu;2C87,Ll;2C88,Lu;2C89,Ll;2C8A,Lu;2C8B,Ll;2C8C,Lu;2C8D,Ll;2C8E,Lu;2C8F,Ll;2C90,Lu;2C91,Ll;2C92,Lu;2C93,Ll;2C94,Lu;2C95,Ll;2C96,Lu;2C97,Ll;2C98,Lu;2C99,Ll;2C9A,Lu;2C9B,Ll;2C9C,Lu;2C9D,Ll;2C9E,Lu;2C9F,Ll;2CA0,Lu;2CA1,Ll;2CA2,Lu;2CA3,Ll;2CA4,Lu;2CA5,Ll;2CA6,Lu;2CA7,Ll;2CA8,Lu;2CA9,Ll;2CAA,Lu;2CAB,Ll;2CAC,Lu;2CAD,Ll;2CAE,Lu;2CAF,Ll;2CB0,Lu;2CB1,Ll;2CB2,Lu;2CB3,Ll;2CB4,Lu;2CB5,Ll;2CB6,Lu;2CB7,Ll;2CB8,Lu;2CB9,Ll;2CBA,Lu;2CBB,Ll;2CBC,Lu;2CBD,Ll;2CBE,Lu;2CBF,Ll;2CC0,Lu;2CC1,Ll;2CC2,Lu;2CC3,Ll;2CC4,Lu;2CC5,Ll;2CC6,Lu;2CC7,Ll;2CC8,Lu;2CC9,Ll;2CCA,Lu;2CCB,Ll;2CCC,Lu;2CCD,Ll;2CCE,Lu;2CCF,Ll;2CD0,Lu;2CD1,Ll;2CD2,Lu;2CD3,Ll;2CD4,Lu;2CD5,Ll;2CD6,Lu;2CD7,Ll;2CD8,Lu;2CD9,Ll;2CDA,Lu;2CDB,Ll;2CDC,Lu;2CDD,Ll;2CDE,Lu;2CDF,Ll;2CE0,Lu;2CE1,Ll;2CE2,Lu;2CE3,Ll;2CE5,So;2CEB,Lu;2CEC,Ll;2CED,Lu;2CEE,Ll;2CEF,Mn;2CF2,Lu;2CF3,Ll;2CF4,Cn;2CF9,Po;2CFD,No;2CFE,Po;2D00,Ll;2D26,Cn;2D27,Ll;2D28,Cn;2D2D,Ll;2D2E,Cn;2D30,Lo;2D68,Cn;2D6F,Lm;2D70,Po;2D71,Cn;2D7F,Mn;2D80,Lo;2D97,Cn;2DA0,Lo;2DA7,Cn;2DA8,Lo;2DAF,Cn;2DB0,Lo;2DB7,Cn;2DB8,Lo;2DBF,Cn;2DC0,Lo;2DC7,Cn;2DC8,Lo;2DCF,Cn;2DD0,Lo;2DD7,Cn;2DD8,Lo;2DDF,Cn;2DE0,Mn;2E00,Po;2E02,Pi;2E03,Pf;2E04,Pi;2E05,Pf;2E06,Po;2E09,Pi;2E0A,Pf;2E0B,Po;2E0C,Pi;2E0D,Pf;2E0E,Po;2E17,Pd;2E18,Po;2E1A,Pd;2E1B,Po;2E1C,Pi;2E1D,Pf;2E1E,Po;2E20,Pi;2E21,Pf;2E22,Ps;2E23,Pe;2E24,Ps;2E25,Pe;2E26,Ps;2E27,Pe;2E28,Ps;2E29,Pe;2E2A,Po;2E2F,Lm;2E30,Po;2E3A,Pd;2E3C,Po;2E40,Pd;2E41,Po;2E42,Ps;2E43,Po;2E50,So;2E52,Po;2E55,Ps;2E56,Pe;2E57,Ps;2E58,Pe;2E59,Ps;2E5A,Pe;2E5B,Ps;2E5C,Pe;2E5D,Pd;2E5E,Cn;2E80,So;2E9A,Cn;2E9B,So;2EF4,Cn;2F00,So;2FD6,Cn;2FF0,So;3000,Zs;3001,Po;3004,So;3005,Lm;3006,Lo;3007,Nl;3008,Ps;3009,Pe;300A,Ps;300B,Pe;300C,Ps;300D,Pe;300E,Ps;300F,Pe;3010,Ps;3011,Pe;3012,So;3014,Ps;3015,Pe;3016,Ps;3017,Pe;3018,Ps;3019,Pe;301A,Ps;301B,Pe;301C,Pd;301D,Ps;301E,Pe;3020,So;3021,Nl;302A,Mn;302E,Mc;3030,Pd;3031,Lm;3036,So;3038,Nl;303B,Lm;303C,Lo;303D,Po;303E,So;3040,Cn;3041,Lo;3097,Cn;3099,Mn;309B,Sk;309D,Lm;309F,Lo;30A0,Pd;30A1,Lo;30FB,Po;30FC,Lm;30FF,Lo;3100,Cn;3105,Lo;3130,Cn;3131,Lo;318F,Cn;3190,So;3192,No;3196,So;31A0,Lo;31C0,So;31E6,Cn;31EF,So;31F0,Lo;3200,So;321F,Cn;3220,No;322A,So;3248,No;3250,So;3251,No;3260,So;3280,No;328A,So;32B1,No;32C0,So;3400,Lo;4DC0,So;4E00,Lo;A015,Lm;A016,Lo;A48D,Cn;A490,So;A4C7,Cn;A4D0,Lo;A4F8,Lm;A4FE,Po;A500,Lo;A60C,Lm;A60D,Po;A610,Lo;A620,Nd;A62A,Lo;A62C,Cn;A640,Lu;A641,Ll;A642,Lu;A643,Ll;A644,Lu;A645,Ll;A646,Lu;A647,Ll;A648,Lu;A649,Ll;A64A,Lu;A64B,Ll;A64C,Lu;A64D,Ll;A64E,Lu;A64F,Ll;A650,Lu;A651,Ll;A652,Lu;A653,Ll;A654,Lu;A655,Ll;A656,Lu;A657,Ll;A658,Lu;A659,Ll;A65A,Lu;A65B,Ll;A65C,Lu;A65D,Ll;A65E,Lu;A65F,Ll;A660,Lu;A661,Ll;A662,Lu;A663,Ll;A664,Lu;A665,Ll;A666,Lu;A667,Ll;A668,Lu;A669,Ll;A66A,Lu;A66B,Ll;A66C,Lu;A66D,Ll;A66E,Lo;A66F,Mn;A670,Me;A673,Po;A674,Mn;A67E,Po;A67F,Lm;A680,Lu;A681,Ll;A682,Lu;A683,Ll;A684,Lu;A685,Ll;A686,Lu;A687,Ll;A688,Lu;A689,Ll;A68A,Lu;A68B,Ll;A68C,Lu;A68D,Ll;A68E,Lu;A68F,Ll;A690,Lu;A691,Ll;A692,Lu;A693,Ll;A694,Lu;A695,Ll;A696,Lu;A697,Ll;A698,Lu;A699,Ll;A69A,Lu;A69B,Ll;A69C,Lm;A69E,Mn;A6A0,Lo;A6E6,Nl;A6F0,Mn;A6F2,Po;A6F8,Cn;A700,Sk;A717,Lm;A720,Sk;A722,Lu;A723,Ll;A724,Lu;A725,Ll;A726,Lu;A727,Ll;A728,Lu;A729,Ll;A72A,Lu;A72B,Ll;A72C,Lu;A72D,Ll;A72E,Lu;A72F,Ll;A732,Lu;A733,Ll;A734,Lu;A735,Ll;A736,Lu;A737,Ll;A738,Lu;A739,Ll;A73A,Lu;A73B,Ll;A73C,Lu;A73D,Ll;A73E,Lu;A73F,Ll;A740,Lu;A741,Ll;A742,Lu;A743,Ll;A744,Lu;A745,Ll;A746,Lu;A747,Ll;A748,Lu;A749,Ll;A74A,Lu;A74B,Ll;A74C,Lu;A74D,Ll;A74E,Lu;A74F,Ll;A750,Lu;A751,Ll;A752,Lu;A753,Ll;A754,Lu;A755,Ll;A756,Lu;A757,Ll;A758,Lu;A759,Ll;A75A,Lu;A75B,Ll;A75C,Lu;A75D,Ll;A75E,Lu;A75F,Ll;A760,Lu;A761,Ll;A762,Lu;A763,Ll;A764,Lu;A765,Ll;A766,Lu;A767,Ll;A768,Lu;A769,Ll;A76A,Lu;A76B,Ll;A76C,Lu;A76D,Ll;A76E,Lu;A76F,Ll;A770,Lm;A771,Ll;A779,Lu;A77A,Ll;A77B,Lu;A77C,Ll;A77D,Lu;A77F,Ll;A780,Lu;A781,Ll;A782,Lu;A783,Ll;A784,Lu;A785,Ll;A786,Lu;A787,Ll;A788,Lm;A789,Sk;A78B,Lu;A78C,Ll;A78D,Lu;A78E,Ll;A78F,Lo;A790,Lu;A791,Ll;A792,Lu;A793,Ll;A796,Lu;A797,Ll;A798,Lu;A799,Ll;A79A,Lu;A79B,Ll;A79C,Lu;A79D,Ll;A79E,Lu;A79F,Ll;A7A0,Lu;A7A1,Ll;A7A2,Lu;A7A3,Ll;A7A4,Lu;A7A5,Ll;A7A6,Lu;A7A7,Ll;A7A8,Lu;A7A9,Ll;A7AA,Lu;A7AF,Ll;A7B0,Lu;A7B5,Ll;A7B6,Lu;A7B7,Ll;A7B8,Lu;A7B9,Ll;A7BA,Lu;A7BB,Ll;A7BC,Lu;A7BD,Ll;A7BE,Lu;A7BF,Ll;A7C0,Lu;A7C1,Ll;A7C2,Lu;A7C3,Ll;A7C4,Lu;A7C8,Ll;A7C9,Lu;A7CA,Ll;A7CB,Lu;A7CD,Ll;A7CE,Lu;A7CF,Ll;A7D0,Lu;A7D1,Ll;A7D2,Lu;A7D3,Ll;A7D4,Lu;A7D5,Ll;A7D6,Lu;A7D7,Ll;A7D8,Lu;A7D9,Ll;A7DA,Lu;A7DB,Ll;A7DC,Lu;A7DD,Cn;A7F1,Lm;A7F5,Lu;A7F6,Ll;A7F7,Lo;A7F8,Lm;A7FA,Ll;A7FB,Lo;A802,Mn;A803,Lo;A806,Mn;A807,Lo;A80B,Mn;A80C,Lo;A823,Mc;A825,Mn;A827,Mc;A828,So;A82C,Mn;A82D,Cn;A830,No;A836,So;A838,Sc;A839,So;A83A,Cn;A840,Lo;A874,Po;A878,Cn;A880,Mc;A882,Lo;A8B4,Mc;A8C4,Mn;A8C6,Cn;A8CE,Po;A8D0,Nd;A8DA,Cn;A8E0,Mn;A8F2,Lo;A8F8,Po;A8FB,Lo;A8FC,Po;A8FD,Lo;A8FF,Mn;A900,Nd;A90A,Lo;A926,Mn;A92E,Po;A930,Lo;A947,Mn;A952,Mc;A954,Cn;A95F,Po;A960,Lo;A97D,Cn;A980,Mn;A983,Mc;A984,Lo;A9B3,Mn;A9B4,Mc;A9B6,Mn;A9BA,Mc;A9BC,Mn;A9BE,Mc;A9C1,Po;A9CE,Cn;A9CF,Lm;A9D0,Nd;A9DA,Cn;A9DE,Po;A9E0,Lo;A9E5,Mn;A9E6,Lm;A9E7,Lo;A9F0,Nd;A9FA,Lo;A9FF,Cn;AA00,Lo;AA29,Mn;AA2F,Mc;AA31,Mn;AA33,Mc;AA35,Mn;AA37,Cn;AA40,Lo;AA43,Mn;AA44,Lo;AA4C,Mn;AA4D,Mc;AA4E,Cn;AA50,Nd;AA5A,Cn;AA5C,Po;AA60,Lo;AA70,Lm;AA71,Lo;AA77,So;AA7A,Lo;AA7B,Mc;AA7C,Mn;AA7D,Mc;AA7E,Lo;AAB0,Mn;AAB1,Lo;AAB2,Mn;AAB5,Lo;AAB7,Mn;AAB9,Lo;AABE,Mn;AAC0,Lo;AAC1,Mn;AAC2,Lo;AAC3,Cn;AADB,Lo;AADD,Lm;AADE,Po;AAE0,Lo;AAEB,Mc;AAEC,Mn;AAEE,Mc;AAF0,Po;AAF2,Lo;AAF3,Lm;AAF5,Mc;AAF6,Mn;AAF7,Cn;AB01,Lo;AB07,Cn;AB09,Lo;AB0F,Cn;AB11,Lo;AB17,Cn;AB20,Lo;AB27,Cn;AB28,Lo;AB2F,Cn;AB30,Ll;AB5B,Sk;AB5C,Lm;AB60,Ll;AB69,Lm;AB6A,Sk;AB6C,Cn;AB70,Ll;ABC0,Lo;ABE3,Mc;ABE5,Mn;ABE6,Mc;ABE8,Mn;ABE9,Mc;ABEB,Po;ABEC,Mc;ABED,Mn;ABEE,Cn;ABF0,Nd;ABFA,Cn;AC00,Lo;D7A4,Cn;D7B0,Lo;D7C7,Cn;D7CB,Lo;D7FC,Cn;D800,Cs;E000,Co;F900,Lo;FA6E,Cn;FA70,Lo;FADA,Cn;FB00,Ll;FB07,Cn;FB13,Ll;FB18,Cn;FB1D,Lo;FB1E,Mn;FB1F,Lo;FB29,Sm;FB2A,Lo;FB37,Cn;FB38,Lo;FB3D,Cn;FB3E,Lo;FB3F,Cn;FB40,Lo;FB42,Cn;FB43,Lo;FB45,Cn;FB46,Lo;FBB2,Sk;FBC3,So;FBD3,Lo;FD3E,Pe;FD3F,Ps;FD40,So;FD50,Lo;FD90,So;FD92,Lo;FDC8,So;FDD0,Cn;FDF0,Lo;FDFC,Sc;FDFD,So;FE00,Mn;FE10,Po;FE17,Ps;FE18,Pe;FE19,Po;FE1A,Cn;FE20,Mn;FE30,Po;FE31,Pd;FE33,Pc;FE35,Ps;FE36,Pe;FE37,Ps;FE38,Pe;FE39,Ps;FE3A,Pe;FE3B,Ps;FE3C,Pe;FE3D,Ps;FE3E,Pe;FE3F,Ps;FE40,Pe;FE41,Ps;FE42,Pe;FE43,Ps;FE44,Pe;FE45,Po;FE47,Ps;FE48,Pe;FE49,Po;FE4D,Pc;FE50,Po;FE53,Cn;FE54,Po;FE58,Pd;FE59,Ps;FE5A,Pe;FE5B,Ps;FE5C,Pe;FE5D,Ps;FE5E,Pe;FE5F,Po;FE62,Sm;FE63,Pd;FE64,Sm;FE67,Cn;FE68,Po;FE69,Sc;FE6A,Po;FE6C,Cn;FE70,Lo;FE75,Cn;FE76,Lo;FEFD,Cn;FEFF,Cf;FF00,Cn;FF01,Po;FF04,Sc;FF05,Po;FF08,Ps;FF09,Pe;FF0A,Po;FF0B,Sm;FF0C,Po;FF0D,Pd;FF0E,Po;FF10,Nd;FF1A,Po;FF1C,Sm;FF1F,Po;FF21,Lu;FF3B,Ps;FF3C,Po;FF3D,Pe;FF3E,Sk;FF3F,Pc;FF40,Sk;FF41,Ll;FF5B,Ps;FF5C,Sm;FF5D,Pe;FF5E,Sm;FF5F,Ps;FF60,Pe;FF61,Po;FF62,Ps;FF63,Pe;FF64,Po;FF66,Lo;FF70,Lm;FF71,Lo;FF9E,Lm;FFA0,Lo;FFBF,Cn;FFC2,Lo;FFC8,Cn;FFCA,Lo;FFD0,Cn;FFD2,Lo;FFD8,Cn;FFDA,Lo;FFDD,Cn;FFE0,Sc;FFE2,Sm;FFE3,Sk;FFE4,So;FFE5,Sc;FFE7,Cn;FFE8,So;FFE9,Sm;FFED,So;FFEF,Cn;FFF9,Cf;FFFC,So;FFFE,Cn;10000,Lo;1000C,Cn;1000D,Lo;10027,Cn;10028,Lo;1003B,Cn;1003C,Lo;1003E,Cn;1003F,Lo;1004E,Cn;10050,Lo;1005E,Cn;10080,Lo;100FB,Cn;10100,Po;10103,Cn;10107,No;10134,Cn;10137,So;10140,Nl;10175,No;10179,So;1018A,No;1018C,So;1018F,Cn;10190,So;1019D,Cn;101A0,So;101A1,Cn;101D0,So;101FD,Mn;101FE,Cn;10280,Lo;1029D,Cn;102A0,Lo;102D1,Cn;102E0,Mn;102E1,No;102FC,Cn;10300,Lo;10320,No;10324,Cn;1032D,Lo;10341,Nl;10342,Lo;1034A,Nl;1034B,Cn;10350,Lo;10376,Mn;1037B,Cn;10380,Lo;1039E,Cn;1039F,Po;103A0,Lo;103C4,Cn;103C8,Lo;103D0,Po;103D1,Nl;103D6,Cn;10400,Lu;10428,Ll;10450,Lo;1049E,Cn;104A0,Nd;104AA,Cn;104B0,Lu;104D4,Cn;104D8,Ll;104FC,Cn;10500,Lo;10528,Cn;10530,Lo;10564,Cn;1056F,Po;10570,Lu;1057B,Cn;1057C,Lu;1058B,Cn;1058C,Lu;10593,Cn;10594,Lu;10596,Cn;10597,Ll;105A2,Cn;105A3,Ll;105B2,Cn;105B3,Ll;105BA,Cn;105BB,Ll;105BD,Cn;105C0,Lo;105F4,Cn;10600,Lo;10737,Cn;10740,Lo;10756,Cn;10760,Lo;10768,Cn;10780,Lm;10786,Cn;10787,Lm;107B1,Cn;107B2,Lm;107BB,Cn;10800,Lo;10806,Cn;10808,Lo;10809,Cn;1080A,Lo;10836,Cn;10837,Lo;10839,Cn;1083C,Lo;1083D,Cn;1083F,Lo;10856,Cn;10857,Po;10858,No;10860,Lo;10877,So;10879,No;10880,Lo;1089F,Cn;108A7,No;108B0,Cn;108E0,Lo;108F3,Cn;108F4,Lo;108F6,Cn;108FB,No;10900,Lo;10916,No;1091C,Cn;1091F,Po;10920,Lo;1093A,Cn;1093F,Po;10940,Lo;1095A,Cn;10980,Lo;109B8,Cn;109BC,No;109BE,Lo;109C0,No;109D0,Cn;109D2,No;10A00,Lo;10A01,Mn;10A04,Cn;10A05,Mn;10A07,Cn;10A0C,Mn;10A10,Lo;10A14,Cn;10A15,Lo;10A18,Cn;10A19,Lo;10A36,Cn;10A38,Mn;10A3B,Cn;10A3F,Mn;10A40,No;10A49,Cn;10A50,Po;10A59,Cn;10A60,Lo;10A7D,No;10A7F,Po;10A80,Lo;10A9D,No;10AA0,Cn;10AC0,Lo;10AC8,So;10AC9,Lo;10AE5,Mn;10AE7,Cn;10AEB,No;10AF0,Po;10AF7,Cn;10B00,Lo;10B36,Cn;10B39,Po;10B40,Lo;10B56,Cn;10B58,No;10B60,Lo;10B73,Cn;10B78,No;10B80,Lo;10B92,Cn;10B99,Po;10B9D,Cn;10BA9,No;10BB0,Cn;10C00,Lo;10C49,Cn;10C80,Lu;10CB3,Cn;10CC0,Ll;10CF3,Cn;10CFA,No;10D00,Lo;10D24,Mn;10D28,Cn;10D30,Nd;10D3A,Cn;10D40,Nd;10D4A,Lo;10D4E,Lm;10D4F,Lo;10D50,Lu;10D66,Cn;10D69,Mn;10D6E,Pd;10D6F,Lm;10D70,Ll;10D86,Cn;10D8E,Sm;10D90,Cn;10E60,No;10E7F,Cn;10E80,Lo;10EAA,Cn;10EAB,Mn;10EAD,Pd;10EAE,Cn;10EB0,Lo;10EB2,Cn;10EC2,Lo;10EC5,Lm;10EC6,Lo;10EC8,Cn;10ED0,Po;10ED1,So;10ED9,Cn;10EFA,Mn;10F00,Lo;10F1D,No;10F27,Lo;10F28,Cn;10F30,Lo;10F46,Mn;10F51,No;10F55,Po;10F5A,Cn;10F70,Lo;10F82,Mn;10F86,Po;10F8A,Cn;10FB0,Lo;10FC5,No;10FCC,Cn;10FE0,Lo;10FF7,Cn;11000,Mc;11001,Mn;11002,Mc;11003,Lo;11038,Mn;11047,Po;1104E,Cn;11052,No;11066,Nd;11070,Mn;11071,Lo;11073,Mn;11075,Lo;11076,Cn;1107F,Mn;11082,Mc;11083,Lo;110B0,Mc;110B3,Mn;110B7,Mc;110B9,Mn;110BB,Po;110BD,Cf;110BE,Po;110C2,Mn;110C3,Cn;110CD,Cf;110CE,Cn;110D0,Lo;110E9,Cn;110F0,Nd;110FA,Cn;11100,Mn;11103,Lo;11127,Mn;1112C,Mc;1112D,Mn;11135,Cn;11136,Nd;11140,Po;11144,Lo;11145,Mc;11147,Lo;11148,Cn;11150,Lo;11173,Mn;11174,Po;11176,Lo;11177,Cn;11180,Mn;11182,Mc;11183,Lo;111B3,Mc;111B6,Mn;111BF,Mc;111C1,Lo;111C5,Po;111C9,Mn;111CD,Po;111CE,Mc;111CF,Mn;111D0,Nd;111DA,Lo;111DB,Po;111DC,Lo;111DD,Po;111E0,Cn;111E1,No;111F5,Cn;11200,Lo;11212,Cn;11213,Lo;1122C,Mc;1122F,Mn;11232,Mc;11234,Mn;11235,Mc;11236,Mn;11238,Po;1123E,Mn;1123F,Lo;11241,Mn;11242,Cn;11280,Lo;11287,Cn;11288,Lo;11289,Cn;1128A,Lo;1128E,Cn;1128F,Lo;1129E,Cn;1129F,Lo;112A9,Po;112AA,Cn;112B0,Lo;112DF,Mn;112E0,Mc;112E3,Mn;112EB,Cn;112F0,Nd;112FA,Cn;11300,Mn;11302,Mc;11304,Cn;11305,Lo;1130D,Cn;1130F,Lo;11311,Cn;11313,Lo;11329,Cn;1132A,Lo;11331,Cn;11332,Lo;11334,Cn;11335,Lo;1133A,Cn;1133B,Mn;1133D,Lo;1133E,Mc;11340,Mn;11341,Mc;11345,Cn;11347,Mc;11349,Cn;1134B,Mc;1134E,Cn;11350,Lo;11351,Cn;11357,Mc;11358,Cn;1135D,Lo;11362,Mc;11364,Cn;11366,Mn;1136D,Cn;11370,Mn;11375,Cn;11380,Lo;1138A,Cn;1138B,Lo;1138C,Cn;1138E,Lo;1138F,Cn;11390,Lo;113B6,Cn;113B7,Lo;113B8,Mc;113BB,Mn;113C1,Cn;113C2,Mc;113C3,Cn;113C5,Mc;113C6,Cn;113C7,Mc;113CB,Cn;113CC,Mc;113CE,Mn;113CF,Mc;113D0,Mn;113D1,Lo;113D2,Mn;113D3,Lo;113D4,Po;113D6,Cn;113D7,Po;113D9,Cn;113E1,Mn;113E3,Cn;11400,Lo;11435,Mc;11438,Mn;11440,Mc;11442,Mn;11445,Mc;11446,Mn;11447,Lo;1144B,Po;11450,Nd;1145A,Po;1145C,Cn;1145D,Po;1145E,Mn;1145F,Lo;11462,Cn;11480,Lo;114B0,Mc;114B3,Mn;114B9,Mc;114BA,Mn;114BB,Mc;114BF,Mn;114C1,Mc;114C2,Mn;114C4,Lo;114C6,Po;114C7,Lo;114C8,Cn;114D0,Nd;114DA,Cn;11580,Lo;115AF,Mc;115B2,Mn;115B6,Cn;115B8,Mc;115BC,Mn;115BE,Mc;115BF,Mn;115C1,Po;115D8,Lo;115DC,Mn;115DE,Cn;11600,Lo;11630,Mc;11633,Mn;1163B,Mc;1163D,Mn;1163E,Mc;1163F,Mn;11641,Po;11644,Lo;11645,Cn;11650,Nd;1165A,Cn;11660,Po;1166D,Cn;11680,Lo;116AB,Mn;116AC,Mc;116AD,Mn;116AE,Mc;116B0,Mn;116B6,Mc;116B7,Mn;116B8,Lo;116B9,Po;116BA,Cn;116C0,Nd;116CA,Cn;116D0,Nd;116E4,Cn;11700,Lo;1171B,Cn;1171D,Mn;1171E,Mc;1171F,Mn;11720,Mc;11722,Mn;11726,Mc;11727,Mn;1172C,Cn;11730,Nd;1173A,No;1173C,Po;1173F,So;11740,Lo;11747,Cn;11800,Lo;1182C,Mc;1182F,Mn;11838,Mc;11839,Mn;1183B,Po;1183C,Cn;118A0,Lu;118C0,Ll;118E0,Nd;118EA,No;118F3,Cn;118FF,Lo;11907,Cn;11909,Lo;1190A,Cn;1190C,Lo;11914,Cn;11915,Lo;11917,Cn;11918,Lo;11930,Mc;11936,Cn;11937,Mc;11939,Cn;1193B,Mn;1193D,Mc;1193E,Mn;1193F,Lo;11940,Mc;11941,Lo;11942,Mc;11943,Mn;11944,Po;11947,Cn;11950,Nd;1195A,Cn;119A0,Lo;119A8,Cn;119AA,Lo;119D1,Mc;119D4,Mn;119D8,Cn;119DA,Mn;119DC,Mc;119E0,Mn;119E1,Lo;119E2,Po;119E3,Lo;119E4,Mc;119E5,Cn;11A00,Lo;11A01,Mn;11A0B,Lo;11A33,Mn;11A39,Mc;11A3A,Lo;11A3B,Mn;11A3F,Po;11A47,Mn;11A48,Cn;11A50,Lo;11A51,Mn;11A57,Mc;11A59,Mn;11A5C,Lo;11A8A,Mn;11A97,Mc;11A98,Mn;11A9A,Po;11A9D,Lo;11A9E,Po;11AA3,Cn;11AB0,Lo;11AF9,Cn;11B00,Po;11B0A,Cn;11B60,Mn;11B61,Mc;11B62,Mn;11B65,Mc;11B66,Mn;11B67,Mc;11B68,Cn;11BC0,Lo;11BE1,Po;11BE2,Cn;11BF0,Nd;11BFA,Cn;11C00,Lo;11C09,Cn;11C0A,Lo;11C2F,Mc;11C30,Mn;11C37,Cn;11C38,Mn;11C3E,Mc;11C3F,Mn;11C40,Lo;11C41,Po;11C46,Cn;11C50,Nd;11C5A,No;11C6D,Cn;11C70,Po;11C72,Lo;11C90,Cn;11C92,Mn;11CA8,Cn;11CA9,Mc;11CAA,Mn;11CB1,Mc;11CB2,Mn;11CB4,Mc;11CB5,Mn;11CB7,Cn;11D00,Lo;11D07,Cn;11D08,Lo;11D0A,Cn;11D0B,Lo;11D31,Mn;11D37,Cn;11D3A,Mn;11D3B,Cn;11D3C,Mn;11D3E,Cn;11D3F,Mn;11D46,Lo;11D47,Mn;11D48,Cn;11D50,Nd;11D5A,Cn;11D60,Lo;11D66,Cn;11D67,Lo;11D69,Cn;11D6A,Lo;11D8A,Mc;11D8F,Cn;11D90,Mn;11D92,Cn;11D93,Mc;11D95,Mn;11D96,Mc;11D97,Mn;11D98,Lo;11D99,Cn;11DA0,Nd;11DAA,Cn;11DB0,Lo;11DD9,Lm;11DDA,Lo;11DDC,Cn;11DE0,Nd;11DEA,Cn;11EE0,Lo;11EF3,Mn;11EF5,Mc;11EF7,Po;11EF9,Cn;11F00,Mn;11F02,Lo;11F03,Mc;11F04,Lo;11F11,Cn;11F12,Lo;11F34,Mc;11F36,Mn;11F3B,Cn;11F3E,Mc;11F40,Mn;11F41,Mc;11F42,Mn;11F43,Po;11F50,Nd;11F5A,Mn;11F5B,Cn;11FB0,Lo;11FB1,Cn;11FC0,No;11FD5,So;11FDD,Sc;11FE1,So;11FF2,Cn;11FFF,Po;12000,Lo;1239A,Cn;12400,Nl;1246F,Cn;12470,Po;12475,Cn;12480,Lo;12544,Cn;12F90,Lo;12FF1,Po;12FF3,Cn;13000,Lo;13430,Cf;13440,Mn;13441,Lo;13447,Mn;13456,Cn;13460,Lo;143FB,Cn;14400,Lo;14647,Cn;16100,Lo;1611E,Mn;1612A,Mc;1612D,Mn;16130,Nd;1613A,Cn;16800,Lo;16A39,Cn;16A40,Lo;16A5F,Cn;16A60,Nd;16A6A,Cn;16A6E,Po;16A70,Lo;16ABF,Cn;16AC0,Nd;16ACA,Cn;16AD0,Lo;16AEE,Cn;16AF0,Mn;16AF5,Po;16AF6,Cn;16B00,Lo;16B30,Mn;16B37,Po;16B3C,So;16B40,Lm;16B44,Po;16B45,So;16B46,Cn;16B50,Nd;16B5A,Cn;16B5B,No;16B62,Cn;16B63,Lo;16B78,Cn;16B7D,Lo;16B90,Cn;16D40,Lm;16D43,Lo;16D6B,Lm;16D6D,Po;16D70,Nd;16D7A,Cn;16E40,Lu;16E60,Ll;16E80,No;16E97,Po;16E9B,Cn;16EA0,Lu;16EB9,Cn;16EBB,Ll;16ED4,Cn;16F00,Lo;16F4B,Cn;16F4F,Mn;16F50,Lo;16F51,Mc;16F88,Cn;16F8F,Mn;16F93,Lm;16FA0,Cn;16FE0,Lm;16FE2,Po;16FE3,Lm;16FE4,Mn;16FE5,Cn;16FF0,Mc;16FF2,Lm;16FF4,Nl;16FF7,Cn;17000,Lo;18CD6,Cn;18CFF,Lo;18D1F,Cn;18D80,Lo;18DF3,Cn;1AFF0,Lm;1AFF4,Cn;1AFF5,Lm;1AFFC,Cn;1AFFD,Lm;1AFFF,Cn;1B000,Lo;1B123,Cn;1B132,Lo;1B133,Cn;1B150,Lo;1B153,Cn;1B155,Lo;1B156,Cn;1B164,Lo;1B168,Cn;1B170,Lo;1B2FC,Cn;1BC00,Lo;1BC6B,Cn;1BC70,Lo;1BC7D,Cn;1BC80,Lo;1BC89,Cn;1BC90,Lo;1BC9A,Cn;1BC9C,So;1BC9D,Mn;1BC9F,Po;1BCA0,Cf;1BCA4,Cn;1CC00,So;1CCF0,Nd;1CCFA,So;1CCFD,Cn;1CD00,So;1CEB4,Cn;1CEBA,So;1CED1,Cn;1CEE0,So;1CEF0,Sm;1CEF1,Cn;1CF00,Mn;1CF2E,Cn;1CF30,Mn;1CF47,Cn;1CF50,So;1CFC4,Cn;1D000,So;1D0F6,Cn;1D100,So;1D127,Cn;1D129,So;1D165,Mc;1D167,Mn;1D16A,So;1D16D,Mc;1D173,Cf;1D17B,Mn;1D183,So;1D185,Mn;1D18C,So;1D1AA,Mn;1D1AE,So;1D1EB,Cn;1D200,So;1D242,Mn;1D245,So;1D246,Cn;1D2C0,No;1D2D4,Cn;1D2E0,No;1D2F4,Cn;1D300,So;1D357,Cn;1D360,No;1D379,Cn;1D400,Lu;1D41A,Ll;1D434,Lu;1D44E,Ll;1D455,Cn;1D456,Ll;1D468,Lu;1D482,Ll;1D49C,Lu;1D49D,Cn;1D49E,Lu;1D4A0,Cn;1D4A2,Lu;1D4A3,Cn;1D4A5,Lu;1D4A7,Cn;1D4A9,Lu;1D4AD,Cn;1D4AE,Lu;1D4B6,Ll;1D4BA,Cn;1D4BB,Ll;1D4BC,Cn;1D4BD,Ll;1D4C4,Cn;1D4C5,Ll;1D4D0,Lu;1D4EA,Ll;1D504,Lu;1D506,Cn;1D507,Lu;1D50B,Cn;1D50D,Lu;1D515,Cn;1D516,Lu;1D51D,Cn;1D51E,Ll;1D538,Lu;1D53A,Cn;1D53B,Lu;1D53F,Cn;1D540,Lu;1D545,Cn;1D546,Lu;1D547,Cn;1D54A,Lu;1D551,Cn;1D552,Ll;1D56C,Lu;1D586,Ll;1D5A0,Lu;1D5BA,Ll;1D5D4,Lu;1D5EE,Ll;1D608,Lu;1D622,Ll;1D63C,Lu;1D656,Ll;1D670,Lu;1D68A,Ll;1D6A6,Cn;1D6A8,Lu;1D6C1,Sm;1D6C2,Ll;1D6DB,Sm;1D6DC,Ll;1D6E2,Lu;1D6FB,Sm;1D6FC,Ll;1D715,Sm;1D716,Ll;1D71C,Lu;1D735,Sm;1D736,Ll;1D74F,Sm;1D750,Ll;1D756,Lu;1D76F,Sm;1D770,Ll;1D789,Sm;1D78A,Ll;1D790,Lu;1D7A9,Sm;1D7AA,Ll;1D7C3,Sm;1D7C4,Ll;1D7CA,Lu;1D7CB,Ll;1D7CC,Cn;1D7CE,Nd;1D800,So;1DA00,Mn;1DA37,So;1DA3B,Mn;1DA6D,So;1DA75,Mn;1DA76,So;1DA84,Mn;1DA85,So;1DA87,Po;1DA8C,Cn;1DA9B,Mn;1DAA0,Cn;1DAA1,Mn;1DAB0,Cn;1DF00,Ll;1DF0A,Lo;1DF0B,Ll;1DF1F,Cn;1DF25,Ll;1DF2B,Cn;1E000,Mn;1E007,Cn;1E008,Mn;1E019,Cn;1E01B,Mn;1E022,Cn;1E023,Mn;1E025,Cn;1E026,Mn;1E02B,Cn;1E030,Lm;1E06E,Cn;1E08F,Mn;1E090,Cn;1E100,Lo;1E12D,Cn;1E130,Mn;1E137,Lm;1E13E,Cn;1E140,Nd;1E14A,Cn;1E14E,Lo;1E14F,So;1E150,Cn;1E290,Lo;1E2AE,Mn;1E2AF,Cn;1E2C0,Lo;1E2EC,Mn;1E2F0,Nd;1E2FA,Cn;1E2FF,Sc;1E300,Cn;1E4D0,Lo;1E4EB,Lm;1E4EC,Mn;1E4F0,Nd;1E4FA,Cn;1E5D0,Lo;1E5EE,Mn;1E5F0,Lo;1E5F1,Nd;1E5FB,Cn;1E5FF,Po;1E600,Cn;1E6C0,Lo;1E6DF,Cn;1E6E0,Lo;1E6E3,Mn;1E6E4,Lo;1E6E6,Mn;1E6E7,Lo;1E6EE,Mn;1E6F0,Lo;1E6F5,Mn;1E6F6,Cn;1E6FE,Lo;1E6FF,Lm;1E700,Cn;1E7E0,Lo;1E7E7,Cn;1E7E8,Lo;1E7EC,Cn;1E7ED,Lo;1E7EF,Cn;1E7F0,Lo;1E7FF,Cn;1E800,Lo;1E8C5,Cn;1E8C7,No;1E8D0,Mn;1E8D7,Cn;1E900,Lu;1E922,Ll;1E944,Mn;1E94B,Lm;1E94C,Cn;1E950,Nd;1E95A,Cn;1E95E,Po;1E960,Cn;1EC71,No;1ECAC,So;1ECAD,No;1ECB0,Sc;1ECB1,No;1ECB5,Cn;1ED01,No;1ED2E,So;1ED2F,No;1ED3E,Cn;1EE00,Lo;1EE04,Cn;1EE05,Lo;1EE20,Cn;1EE21,Lo;1EE23,Cn;1EE24,Lo;1EE25,Cn;1EE27,Lo;1EE28,Cn;1EE29,Lo;1EE33,Cn;1EE34,Lo;1EE38,Cn;1EE39,Lo;1EE3A,Cn;1EE3B,Lo;1EE3C,Cn;1EE42,Lo;1EE43,Cn;1EE47,Lo;1EE48,Cn;1EE49,Lo;1EE4A,Cn;1EE4B,Lo;1EE4C,Cn;1EE4D,Lo;1EE50,Cn;1EE51,Lo;1EE53,Cn;1EE54,Lo;1EE55,Cn;1EE57,Lo;1EE58,Cn;1EE59,Lo;1EE5A,Cn;1EE5B,Lo;1EE5C,Cn;1EE5D,Lo;1EE5E,Cn;1EE5F,Lo;1EE60,Cn;1EE61,Lo;1EE63,Cn;1EE64,Lo;1EE65,Cn;1EE67,Lo;1EE6B,Cn;1EE6C,Lo;1EE73,Cn;1EE74,Lo;1EE78,Cn;1EE79,Lo;1EE7D,Cn;1EE7E,Lo;1EE7F,Cn;1EE80,Lo;1EE8A,Cn;1EE8B,Lo;1EE9C,Cn;1EEA1,Lo;1EEA4,Cn;1EEA5,Lo;1EEAA,Cn;1EEAB,Lo;1EEBC,Cn;1EEF0,Sm;1EEF2,Cn;1F000,So;1F02C,Cn;1F030,So;1F094,Cn;1F0A0,So;1F0AF,Cn;1F0B1,So;1F0C0,Cn;1F0C1,So;1F0D0,Cn;1F0D1,So;1F0F6,Cn;1F100,No;1F10D,So;1F1AE,Cn;1F1E6,So;1F203,Cn;1F210,So;1F23C,Cn;1F240,So;1F249,Cn;1F250,So;1F252,Cn;1F260,So;1F266,Cn;1F300,So;1F3FB,Sk;1F400,So;1F6D9,Cn;1F6DC,So;1F6ED,Cn;1F6F0,So;1F6FD,Cn;1F700,So;1F7DA,Cn;1F7E0,So;1F7EC,Cn;1F7F0,So;1F7F1,Cn;1F800,So;1F80C,Cn;1F810,So;1F848,Cn;1F850,So;1F85A,Cn;1F860,So;1F888,Cn;1F890,So;1F8AE,Cn;1F8B0,So;1F8BC,Cn;1F8C0,So;1F8C2,Cn;1F8D0,Sm;1F8D9,Cn;1F900,So;1FA58,Cn;1FA60,So;1FA6E,Cn;1FA70,So;1FA7D,Cn;1FA80,So;1FA8B,Cn;1FA8E,So;1FAC7,Cn;1FAC8,So;1FAC9,Cn;1FACD,So;1FADD,Cn;1FADF,So;1FAEB,Cn;1FAEF,So;1FAF9,Cn;1FB00,So;1FB93,Cn;1FB94,So;1FBF0,Nd;1FBFA,So;1FBFB,Cn;20000,Lo;2A6E0,Cn;2A700,Lo;2B81E,Cn;2B820,Lo;2CEAE,Cn;2CEB0,Lo;2EBE1,Cn;2EBF0,Lo;2EE5E,Cn;2F800,Lo;2FA1E,Cn;30000,Lo;3134B,Cn;31350,Lo;3347A,Cn;E0001,Cf;E0002,Cn;E0020,Cf;E0080,Cn;E0100,Mn;E01F0,Cn;F0000,Co;FFFFE,Cn;100000,Co;10FFFE,Cn"

/-- The script of every code point, by ranges, by the long name of the script. -/
def scriptText : String :=
  "0,Common;41,Latin;5B,Common;61,Latin;7B,Common;AA,Latin;AB,Common;BA,Latin;BB,Common;C0,Latin;D7,Common;D8,Latin;F7,Common;F8,Latin;2B9,Common;2E0,Latin;2E5,Common;2EA,Bopomofo;2EC,Common;300,Inherited;370,Greek;374,Common;375,Greek;378,Unknown;37A,Greek;37E,Common;37F,Greek;380,Unknown;384,Greek;385,Common;386,Greek;387,Common;388,Greek;38B,Unknown;38C,Greek;38D,Unknown;38E,Greek;3A2,Unknown;3A3,Greek;3E2,Coptic;3F0,Greek;400,Cyrillic;485,Inherited;487,Cyrillic;530,Unknown;531,Armenian;557,Unknown;559,Armenian;58B,Unknown;58D,Armenian;590,Unknown;591,Hebrew;5C8,Unknown;5D0,Hebrew;5EB,Unknown;5EF,Hebrew;5F5,Unknown;600,Arabic;605,Common;606,Arabic;60C,Common;60D,Arabic;61B,Common;61C,Arabic;61F,Common;620,Arabic;640,Common;641,Arabic;64B,Inherited;656,Arabic;670,Inherited;671,Arabic;6DD,Common;6DE,Arabic;700,Syriac;70E,Unknown;70F,Syriac;74B,Unknown;74D,Syriac;750,Arabic;780,Thaana;7B2,Unknown;7C0,Nko;7FB,Unknown;7FD,Nko;800,Samaritan;82E,Unknown;830,Samaritan;83F,Unknown;840,Mandaic;85C,Unknown;85E,Mandaic;85F,Unknown;860,Syriac;86B,Unknown;870,Arabic;892,Unknown;897,Arabic;8E2,Common;8E3,Arabic;900,Devanagari;951,Inherited;955,Devanagari;964,Common;966,Devanagari;980,Bengali;984,Unknown;985,Bengali;98D,Unknown;98F,Bengali;991,Unknown;993,Bengali;9A9,Unknown;9AA,Bengali;9B1,Unknown;9B2,Bengali;9B3,Unknown;9B6,Bengali;9BA,Unknown;9BC,Bengali;9C5,Unknown;9C7,Bengali;9C9,Unknown;9CB,Bengali;9CF,Unknown;9D7,Bengali;9D8,Unknown;9DC,Bengali;9DE,Unknown;9DF,Bengali;9E4,Unknown;9E6,Bengali;9FF,Unknown;A01,Gurmukhi;A04,Unknown;A05,Gurmukhi;A0B,Unknown;A0F,Gurmukhi;A11,Unknown;A13,Gurmukhi;A29,Unknown;A2A,Gurmukhi;A31,Unknown;A32,Gurmukhi;A34,Unknown;A35,Gurmukhi;A37,Unknown;A38,Gurmukhi;A3A,Unknown;A3C,Gurmukhi;A3D,Unknown;A3E,Gurmukhi;A43,Unknown;A47,Gurmukhi;A49,Unknown;A4B,Gurmukhi;A4E,Unknown;A51,Gurmukhi;A52,Unknown;A59,Gurmukhi;A5D,Unknown;A5E,Gurmukhi;A5F,Unknown;A66,Gurmukhi;A77,Unknown;A81,Gujarati;A84,Unknown;A85,Gujarati;A8E,Unknown;A8F,Gujarati;A92,Unknown;A93,Gujarati;AA9,Unknown;AAA,Gujarati;AB1,Unknown;AB2,Gujarati;AB4,Unknown;AB5,Gujarati;ABA,Unknown;ABC,Gujarati;AC6,Unknown;AC7,Gujarati;ACA,Unknown;ACB,Gujarati;ACE,Unknown;AD0,Gujarati;AD1,Unknown;AE0,Gujarati;AE4,Unknown;AE6,Gujarati;AF2,Unknown;AF9,Gujarati;B00,Unknown;B01,Oriya;B04,Unknown;B05,Oriya;B0D,Unknown;B0F,Oriya;B11,Unknown;B13,Oriya;B29,Unknown;B2A,Oriya;B31,Unknown;B32,Oriya;B34,Unknown;B35,Oriya;B3A,Unknown;B3C,Oriya;B45,Unknown;B47,Oriya;B49,Unknown;B4B,Oriya;B4E,Unknown;B55,Oriya;B58,Unknown;B5C,Oriya;B5E,Unknown;B5F,Oriya;B64,Unknown;B66,Oriya;B78,Unknown;B82,Tamil;B84,Unknown;B85,Tamil;B8B,Unknown;B8E,Tamil;B91,Unknown;B92,Tamil;B96,Unknown;B99,Tamil;B9B,Unknown;B9C,Tamil;B9D,Unknown;B9E,Tamil;BA0,Unknown;BA3,Tamil;BA5,Unknown;BA8,Tamil;BAB,Unknown;BAE,Tamil;BBA,Unknown;BBE,Tamil;BC3,Unknown;BC6,Tamil;BC9,Unknown;BCA,Tamil;BCE,Unknown;BD0,Tamil;BD1,Unknown;BD7,Tamil;BD8,Unknown;BE6,Tamil;BFB,Unknown;C00,Telugu;C0D,Unknown;C0E,Telugu;C11,Unknown;C12,Telugu;C29,Unknown;C2A,Telugu;C3A,Unknown;C3C,Telugu;C45,Unknown;C46,Telugu;C49,Unknown;C4A,Telugu;C4E,Unknown;C55,Telugu;C57,Unknown;C58,Telugu;C5B,Unknown;C5C,Telugu;C5E,Unknown;C60,Telugu;C64,Unknown;C66,Telugu;C70,Unknown;C77,Telugu;C80,Kannada;C8D,Unknown;C8E,Kannada;C91,Unknown;C92,Kannada;CA9,Unknown;CAA,Kannada;CB4,Unknown;CB5,Kannada;CBA,Unknown;CBC,Kannada;CC5,Unknown;CC6,Kannada;CC9,Unknown;CCA,Kannada;CCE,Unknown;CD5,Kannada;CD7,Unknown;CDC,Kannada;CDF,Unknown;CE0,Kannada;CE4,Unknown;CE6,Kannada;CF0,Unknown;CF1,Kannada;CF4,Unknown;D00,Malayalam;D0D,Unknown;D0E,Malayalam;D11,Unknown;D12,Malayalam;D45,Unknown;D46,Malayalam;D49,Unknown;D4A,Malayalam;D50,Unknown;D54,Malayalam;D64,Unknown;D66,Malayalam;D80,Unknown;D81,Sinhala;D84,Unknown;D85,Sinhala;D97,Unknown;D9A,Sinhala;DB2,Unknown;DB3,Sinhala;DBC,Unknown;DBD,Sinhala;DBE,Unknown;DC0,Sinhala;DC7,Unknown;DCA,Sinhala;DCB,Unknown;DCF,Sinhala;DD5,Unknown;DD6,Sinhala;DD7,Unknown;DD8,Sinhala;DE0,Unknown;DE6,Sinhala;DF0,Unknown;DF2,Sinhala;DF5,Unknown;E01,Thai;E3B,Unknown;E3F,Common;E40,Thai;E5C,Unknown;E81,Lao;E83,Unknown;E84,Lao;E85,Unknown;E86,Lao;E8B,Unknown;E8C,Lao;EA4,Unknown;EA5,Lao;EA6,Unknown;EA7,Lao;EBE,Unknown;EC0,Lao;EC5,Unknown;EC6,Lao;EC7,Unknown;EC8,Lao;ECF,Unknown;ED0,Lao;EDA,Unknown;EDC,Lao;EE0,Unknown;F00,Tibetan;F48,Unknown;F49,Tibetan;F6D,Unknown;F71,Tibetan;F98,Unknown;F99,Tibetan;FBD,Unknown;FBE,Tibetan;FCD,Unknown;FCE,Tibetan;FD5,Common;FD9,Tibetan;FDB,Unknown;1000,Myanmar;10A0,Georgian;10C6,Unknown;10C7,Georgian;10C8,Unknown;10CD,Georgian;10CE,Unknown;10D0,Georgian;10FB,Common;10FC,Georgian;1100,Hangul;1200,Ethiopic;1249,Unknown;124A,Ethiopic;124E,Unknown;1250,Ethiopic;1257,Unknown;1258,Ethiopic;1259,Unknown;125A,Ethiopic;125E,Unknown;1260,Ethiopic;1289,Unknown;128A,Ethiopic;128E,Unknown;1290,Ethiopic;12B1,Unknown;12B2,Ethiopic;12B6,Unknown;12B8,Ethiopic;12BF,Unknown;12C0,Ethiopic;12C1,Unknown;12C2,Ethiopic;12C6,Unknown;12C8,Ethiopic;12D7,Unknown;12D8,Ethiopic;1311,Unknown;1312,Ethiopic;1316,Unknown;1318,Ethiopic;135B,Unknown;135D,Ethiopic;137D,Unknown;1380,Ethiopic;139A,Unknown;13A0,Cherokee;13F6,Unknown;13F8,Cherokee;13FE,Unknown;1400,Canadian_Aboriginal;1680,Ogham;169D,Unknown;16A0,Runic;16EB,Common;16EE,Runic;16F9,Unknown;1700,Tagalog;1716,Unknown;171F,Tagalog;1720,Hanunoo;1735,Common;1737,Unknown;1740,Buhid;1754,Unknown;1760,Tagbanwa;176D,Unknown;176E,Tagbanwa;1771,Unknown;1772,Tagbanwa;1774,Unknown;1780,Khmer;17DE,Unknown;17E0,Khmer;17EA,Unknown;17F0,Khmer;17FA,Unknown;1800,Mongolian;1802,Common;1804,Mongolian;1805,Common;1806,Mongolian;181A,Unknown;1820,Mongolian;1879,Unknown;1880,Mongolian;18AB,Unknown;18B0,Canadian_Aboriginal;18F6,Unknown;1900,Limbu;191F,Unknown;1920,Limbu;192C,Unknown;1930,Limbu;193C,Unknown;1940,Limbu;1941,Unknown;1944,Limbu;1950,Tai_Le;196E,Unknown;1970,Tai_Le;1975,Unknown;1980,New_Tai_Lue;19AC,Unknown;19B0,New_Tai_Lue;19CA,Unknown;19D0,New_Tai_Lue;19DB,Unknown;19DE,New_Tai_Lue;19E0,Khmer;1A00,Buginese;1A1C,Unknown;1A1E,Buginese;1A20,Tai_Tham;1A5F,Unknown;1A60,Tai_Tham;1A7D,Unknown;1A7F,Tai_Tham;1A8A,Unknown;1A90,Tai_Tham;1A9A,Unknown;1AA0,Tai_Tham;1AAE,Unknown;1AB0,Inherited;1ADE,Unknown;1AE0,Inherited;1AEC,Unknown;1B00,Balinese;1B4D,Unknown;1B4E,Balinese;1B80,Sundanese;1BC0,Batak;1BF4,Unknown;1BFC,Batak;1C00,Lepcha;1C38,Unknown;1C3B,Lepcha;1C4A,Unknown;1C4D,Lepcha;1C50,Ol_Chiki;1C80,Cyrillic;1C8B,Unknown;1C90,Georgian;1CBB,Unknown;1CBD,Georgian;1CC0,Sundanese;1CC8,Unknown;1CD0,Inherited;1CD3,Common;1CD4,Inherited;1CE1,Common;1CE2,Inherited;1CE9,Common;1CED,Inherited;1CEE,Common;1CF4,Inherited;1CF5,Common;1CF8,Inherited;1CFA,Common;1CFB,Unknown;1D00,Latin;1D26,Greek;1D2B,Cyrillic;1D2C,Latin;1D5D,Greek;1D62,Latin;1D66,Greek;1D6B,Latin;1D78,Cyrillic;1D79,Latin;1DBF,Greek;1DC0,Inherited;1E00,Latin;1F00,Greek;1F16,Unknown;1F18,Greek;1F1E,Unknown;1F20,Greek;1F46,Unknown;1F48,Greek;1F4E,Unknown;1F50,Greek;1F58,Unknown;1F59,Greek;1F5A,Unknown;1F5B,Greek;1F5C,Unknown;1F5D,Greek;1F5E,Unknown;1F5F,Greek;1F7E,Unknown;1F80,Greek;1FB5,Unknown;1FB6,Greek;1FC5,Unknown;1FC6,Greek;1FD4,Unknown;1FD6,Greek;1FDC,Unknown;1FDD,Greek;1FF0,Unknown;1FF2,Greek;1FF5,Unknown;1FF6,Greek;1FFF,Unknown;2000,Common;200C,Inherited;200E,Common;2065,Unknown;2066,Common;2071,Latin;2072,Unknown;2074,Common;207F,Latin;2080,Common;208F,Unknown;2090,Latin;209D,Unknown;20A0,Common;20C2,Unknown;20D0,Inherited;20F1,Unknown;2100,Common;2126,Greek;2127,Common;212A,Latin;212C,Common;2132,Latin;2133,Common;214E,Latin;214F,Common;2160,Latin;2189,Common;218C,Unknown;2190,Common;242A,Unknown;2440,Common;244B,Unknown;2460,Common;2800,Braille;2900,Common;2B74,Unknown;2B76,Common;2C00,Glagolitic;2C60,Latin;2C80,Coptic;2CF4,Unknown;2CF9,Coptic;2D00,Georgian;2D26,Unknown;2D27,Georgian;2D28,Unknown;2D2D,Georgian;2D2E,Unknown;2D30,Tifinagh;2D68,Unknown;2D6F,Tifinagh;2D71,Unknown;2D7F,Tifinagh;2D80,Ethiopic;2D97,Unknown;2DA0,Ethiopic;2DA7,Unknown;2DA8,Ethiopic;2DAF,Unknown;2DB0,Ethiopic;2DB7,Unknown;2DB8,Ethiopic;2DBF,Unknown;2DC0,Ethiopic;2DC7,Unknown;2DC8,Ethiopic;2DCF,Unknown;2DD0,Ethiopic;2DD7,Unknown;2DD8,Ethiopic;2DDF,Unknown;2DE0,Cyrillic;2E00,Common;2E5E,Unknown;2E80,Han;2E9A,Unknown;2E9B,Han;2EF4,Unknown;2F00,Han;2FD6,Unknown;2FF0,Common;3005,Han;3006,Common;3007,Han;3008,Common;3021,Han;302A,Inherited;302E,Hangul;3030,Common;3038,Han;303C,Common;3040,Unknown;3041,Hiragana;3097,Unknown;3099,Inherited;309B,Common;309D,Hiragana;30A0,Common;30A1,Katakana;30FB,Common;30FD,Katakana;3100,Unknown;3105,Bopomofo;3130,Unknown;3131,Hangul;318F,Unknown;3190,Common;31A0,Bopomofo;31C0,Common;31E6,Unknown;31EF,Common;31F0,Katakana;3200,Hangul;321F,Unknown;3220,Common;3260,Hangul;327F,Common;32D0,Katakana;32FF,Common;3300,Katakana;3358,Common;3400,Han;4DC0,Common;4E00,Han;A000,Yi;A48D,Unknown;A490,Yi;A4C7,Unknown;A4D0,Lisu;A500,Vai;A62C,Unknown;A640,Cyrillic;A6A0,Bamum;A6F8,Unknown;A700,Common;A722,Latin;A788,Common;A78B,Latin;A7DD,Unknown;A7F1,Latin;A800,Syloti_Nagri;A82D,Unknown;A830,Common;A83A,Unknown;A840,Phags_Pa;A878,Unknown;A880,Saurashtra;A8C6,Unknown;A8CE,Saurashtra;A8DA,Unknown;A8E0,Devanagari;A900,Kayah_Li;A92E,Common;A92F,Kayah_Li;A930,Rejang;A954,Unknown;A95F,Rejang;A960,Hangul;A97D,Unknown;A980,Javanese;A9CE,Unknown;A9CF,Common;A9D0,Javanese;A9DA,Unknown;A9DE,Javanese;A9E0,Myanmar;A9FF,Unknown;AA00,Cham;AA37,Unknown;AA40,Cham;AA4E,Unknown;AA50,Cham;AA5A,Unknown;AA5C,Cham;AA60,Myanmar;AA80,Tai_Viet;AAC3,Unknown;AADB,Tai_Viet;AAE0,Meetei_Mayek;AAF7,Unknown;AB01,Ethiopic;AB07,Unknown;AB09,Ethiopic;AB0F,Unknown;AB11,Ethiopic;AB17,Unknown;AB20,Ethiopic;AB27,Unknown;AB28,Ethiopic;AB2F,Unknown;AB30,Latin;AB5B,Common;AB5C,Latin;AB65,Greek;AB66,Latin;AB6A,Common;AB6C,Unknown;AB70,Cherokee;ABC0,Meetei_Mayek;ABEE,Unknown;ABF0,Meetei_Mayek;ABFA,Unknown;AC00,Hangul;D7A4,Unknown;D7B0,Hangul;D7C7,Unknown;D7CB,Hangul;D7FC,Unknown;F900,Han;FA6E,Unknown;FA70,Han;FADA,Unknown;FB00,Latin;FB07,Unknown;FB13,Armenian;FB18,Unknown;FB1D,Hebrew;FB37,Unknown;FB38,Hebrew;FB3D,Unknown;FB3E,Hebrew;FB3F,Unknown;FB40,Hebrew;FB42,Unknown;FB43,Hebrew;FB45,Unknown;FB46,Hebrew;FB50,Arabic;FD3E,Common;FD40,Arabic;FDD0,Unknown;FDF0,Arabic;FE00,Inherited;FE10,Common;FE1A,Unknown;FE20,Inherited;FE2E,Cyrillic;FE30,Common;FE53,Unknown;FE54,Common;FE67,Unknown;FE68,Common;FE6C,Unknown;FE70,Arabic;FE75,Unknown;FE76,Arabic;FEFD,Unknown;FEFF,Common;FF00,Unknown;FF01,Common;FF21,Latin;FF3B,Common;FF41,Latin;FF5B,Common;FF66,Katakana;FF70,Common;FF71,Katakana;FF9E,Common;FFA0,Hangul;FFBF,Unknown;FFC2,Hangul;FFC8,Unknown;FFCA,Hangul;FFD0,Unknown;FFD2,Hangul;FFD8,Unknown;FFDA,Hangul;FFDD,Unknown;FFE0,Common;FFE7,Unknown;FFE8,Common;FFEF,Unknown;FFF9,Common;FFFE,Unknown;10000,Linear_B;1000C,Unknown;1000D,Linear_B;10027,Unknown;10028,Linear_B;1003B,Unknown;1003C,Linear_B;1003E,Unknown;1003F,Linear_B;1004E,Unknown;10050,Linear_B;1005E,Unknown;10080,Linear_B;100FB,Unknown;10100,Common;10103,Unknown;10107,Common;10134,Unknown;10137,Common;10140,Greek;1018F,Unknown;10190,Common;1019D,Unknown;101A0,Greek;101A1,Unknown;101D0,Common;101FD,Inherited;101FE,Unknown;10280,Lycian;1029D,Unknown;102A0,Carian;102D1,Unknown;102E0,Inherited;102E1,Common;102FC,Unknown;10300,Old_Italic;10324,Unknown;1032D,Old_Italic;10330,Gothic;1034B,Unknown;10350,Old_Permic;1037B,Unknown;10380,Ugaritic;1039E,Unknown;1039F,Ugaritic;103A0,Old_Persian;103C4,Unknown;103C8,Old_Persian;103D6,Unknown;10400,Deseret;10450,Shavian;10480,Osmanya;1049E,Unknown;104A0,Osmanya;104AA,Unknown;104B0,Osage;104D4,Unknown;104D8,Osage;104FC,Unknown;10500,Elbasan;10528,Unknown;10530,Caucasian_Albanian;10564,Unknown;1056F,Caucasian_Albanian;10570,Vithkuqi;1057B,Unknown;1057C,Vithkuqi;1058B,Unknown;1058C,Vithkuqi;10593,Unknown;10594,Vithkuqi;10596,Unknown;10597,Vithkuqi;105A2,Unknown;105A3,Vithkuqi;105B2,Unknown;105B3,Vithkuqi;105BA,Unknown;105BB,Vithkuqi;105BD,Unknown;105C0,Todhri;105F4,Unknown;10600,Linear_A;10737,Unknown;10740,Linear_A;10756,Unknown;10760,Linear_A;10768,Unknown;10780,Latin;10786,Unknown;10787,Latin;107B1,Unknown;107B2,Latin;107BB,Unknown;10800,Cypriot;10806,Unknown;10808,Cypriot;10809,Unknown;1080A,Cypriot;10836,Unknown;10837,Cypriot;10839,Unknown;1083C,Cypriot;1083D,Unknown;1083F,Cypriot;10840,Imperial_Aramaic;10856,Unknown;10857,Imperial_Aramaic;10860,Palmyrene;10880,Nabataean;1089F,Unknown;108A7,Nabataean;108B0,Unknown;108E0,Hatran;108F3,Unknown;108F4,Hatran;108F6,Unknown;108FB,Hatran;10900,Phoenician;1091C,Unknown;1091F,Phoenician;10920,Lydian;1093A,Unknown;1093F,Lydian;10940,Unknown;10980,Meroitic_Hieroglyphs;109A0,Meroitic_Cursive;109B8,Unknown;109BC,Meroitic_Cursive;109D0,Unknown;109D2,Meroitic_Cursive;10A00,Kharoshthi;10A04,Unknown;10A05,Kharoshthi;10A07,Unknown;10A0C,Kharoshthi;10A14,Unknown;10A15,Kharoshthi;10A18,Unknown;10A19,Kharoshthi;10A36,Unknown;10A38,Kharoshthi;10A3B,Unknown;10A3F,Kharoshthi;10A49,Unknown;10A50,Kharoshthi;10A59,Unknown;10A60,Old_South_Arabian;10A80,Old_North_Arabian;10AA0,Unknown;10AC0,Manichaean;10AE7,Unknown;10AEB,Manichaean;10AF7,Unknown;10B00,Avestan;10B36,Unknown;10B39,Avestan;10B40,Inscriptional_Parthian;10B56,Unknown;10B58,Inscriptional_Parthian;10B60,Inscriptional_Pahlavi;10B73,Unknown;10B78,Inscriptional_Pahlavi;10B80,Psalter_Pahlavi;10B92,Unknown;10B99,Psalter_Pahlavi;10B9D,Unknown;10BA9,Psalter_Pahlavi;10BB0,Unknown;10C00,Old_Turkic;10C49,Unknown;10C80,Old_Hungarian;10CB3,Unknown;10CC0,Old_Hungarian;10CF3,Unknown;10CFA,Old_Hungarian;10D00,Hanifi_Rohingya;10D28,Unknown;10D30,Hanifi_Rohingya;10D3A,Unknown;10D40,Garay;10D66,Unknown;10D69,Garay;10D86,Unknown;10D8E,Garay;10D90,Unknown;10E60,Arabic;10E7F,Unknown;10E80,Yezidi;10EAA,Unknown;10EAB,Yezidi;10EAE,Unknown;10EB0,Yezidi;10EB2,Unknown;10EC2,Arabic;10EC8,Unknown;10ED0,Arabic;10ED9,Unknown;10EFA,Arabic;10F00,Old_Sogdian;10F28,Unknown;10F30,Sogdian;10F5A,Unknown;10F70,Old_Uyghur;10F8A,Unknown;10FB0,Chorasmian;10FCC,Unknown;10FE0,Elymaic;10FF7,Unknown;11000,Brahmi;1104E,Unknown;11052,Brahmi;11076,Unknown;1107F,Brahmi;11080,Kaithi;110C3,Unknown;110CD,Kaithi;110CE,Unknown;110D0,Sora_Sompeng;110E9,Unknown;110F0,Sora_Sompeng;110FA,Unknown;11100,Chakma;11135,Unknown;11136,Chakma;11148,Unknown;11150,Mahajani;11177,Unknown;11180,Sharada;111E0,Unknown;111E1,Sinhala;111F5,Unknown;11200,Khojki;11212,Unknown;11213,Khojki;11242,Unknown;11280,Multani;11287,Unknown;11288,Multani;11289,Unknown;1128A,Multani;1128E,Unknown;1128F,Multani;1129E,Unknown;1129F,Multani;112AA,Unknown;112B0,Khudawadi;112EB,Unknown;112F0,Khudawadi;112FA,Unknown;11300,Grantha;11304,Unknown;11305,Grantha;1130D,Unknown;1130F,Grantha;11311,Unknown;11313,Grantha;11329,Unknown;1132A,Grantha;11331,Unknown;11332,Grantha;11334,Unknown;11335,Grantha;1133A,Unknown;1133B,Inherited;1133C,Grantha;11345,Unknown;11347,Grantha;11349,Unknown;1134B,Grantha;1134E,Unknown;11350,Grantha;11351,Unknown;11357,Grantha;11358,Unknown;1135D,Grantha;11364,Unknown;11366,Grantha;1136D,Unknown;11370,Grantha;11375,Unknown;11380,Tulu_Tigalari;1138A,Unknown;1138B,Tulu_Tigalari;1138C,Unknown;1138E,Tulu_Tigalari;1138F,Unknown;11390,Tulu_Tigalari;113B6,Unknown;113B7,Tulu_Tigalari;113C1,Unknown;113C2,Tulu_Tigalari;113C3,Unknown;113C5,Tulu_Tigalari;113C6,Unknown;113C7,Tulu_Tigalari;113CB,Unknown;113CC,Tulu_Tigalari;113D6,Unknown;113D7,Tulu_Tigalari;113D9,Unknown;113E1,Tulu_Tigalari;113E3,Unknown;11400,Newa;1145C,Unknown;1145D,Newa;11462,Unknown;11480,Tirhuta;114C8,Unknown;114D0,Tirhuta;114DA,Unknown;11580,Siddham;115B6,Unknown;115B8,Siddham;115DE,Unknown;11600,Modi;11645,Unknown;11650,Modi;1165A,Unknown;11660,Mongolian;1166D,Unknown;11680,Takri;116BA,Unknown;116C0,Takri;116CA,Unknown;116D0,Myanmar;116E4,Unknown;11700,Ahom;1171B,Unknown;1171D,Ahom;1172C,Unknown;11730,Ahom;11747,Unknown;11800,Dogra;1183C,Unknown;118A0,Warang_Citi;118F3,Unknown;118FF,Warang_Citi;11900,Dives_Akuru;11907,Unknown;11909,Dives_Akuru;1190A,Unknown;1190C,Dives_Akuru;11914,Unknown;11915,Dives_Akuru;11917,Unknown;11918,Dives_Akuru;11936,Unknown;11937,Dives_Akuru;11939,Unknown;1193B,Dives_Akuru;11947,Unknown;11950,Dives_Akuru;1195A,Unknown;119A0,Nandinagari;119A8,Unknown;119AA,Nandinagari;119D8,Unknown;119DA,Nandinagari;119E5,Unknown;11A00,Zanabazar_Square;11A48,Unknown;11A50,Soyombo;11AA3,Unknown;11AB0,Canadian_Aboriginal;11AC0,Pau_Cin_Hau;11AF9,Unknown;11B00,Devanagari;11B0A,Unknown;11B60,Sharada;11B68,Unknown;11BC0,Sunuwar;11BE2,Unknown;11BF0,Sunuwar;11BFA,Unknown;11C00,Bhaiksuki;11C09,Unknown;11C0A,Bhaiksuki;11C37,Unknown;11C38,Bhaiksuki;11C46,Unknown;11C50,Bhaiksuki;11C6D,Unknown;11C70,Marchen;11C90,Unknown;11C92,Marchen;11CA8,Unknown;11CA9,Marchen;11CB7,Unknown;11D00,Masaram_Gondi;11D07,Unknown;11D08,Masaram_Gondi;11D0A,Unknown;11D0B,Masaram_Gondi;11D37,Unknown;11D3A,Masaram_Gondi;11D3B,Unknown;11D3C,Masaram_Gondi;11D3E,Unknown;11D3F,Masaram_Gondi;11D48,Unknown;11D50,Masaram_Gondi;11D5A,Unknown;11D60,Gunjala_Gondi;11D66,Unknown;11D67,Gunjala_Gondi;11D69,Unknown;11D6A,Gunjala_Gondi;11D8F,Unknown;11D90,Gunjala_Gondi;11D92,Unknown;11D93,Gunjala_Gondi;11D99,Unknown;11DA0,Gunjala_Gondi;11DAA,Unknown;11EE0,Makasar;11EF9,Unknown;11F00,Kawi;11F11,Unknown;11F12,Kawi;11F3B,Unknown;11F3E,Kawi;11F5B,Unknown;11FB0,Lisu;11FB1,Unknown;11FC0,Tamil;11FF2,Unknown;11FFF,Tamil;12000,Cuneiform;1239A,Unknown;12400,Cuneiform;1246F,Unknown;12470,Cuneiform;12475,Unknown;12480,Cuneiform;12544,Unknown;12F90,Cypro_Minoan;12FF3,Unknown;13000,Egyptian_Hieroglyphs;13456,Unknown;13460,Egyptian_Hieroglyphs;143FB,Unknown;14400,Anatolian_Hieroglyphs;14647,Unknown;16100,Gurung_Khema;1613A,Unknown;16800,Bamum;16A39,Unknown;16A40,Mro;16A5F,Unknown;16A60,Mro;16A6A,Unknown;16A6E,Mro;16A70,Tangsa;16ABF,Unknown;16AC0,Tangsa;16ACA,Unknown;16AD0,Bassa_Vah;16AEE,Unknown;16AF0,Bassa_Vah;16AF6,Unknown;16B00,Pahawh_Hmong;16B46,Unknown;16B50,Pahawh_Hmong;16B5A,Unknown;16B5B,Pahawh_Hmong;16B62,Unknown;16B63,Pahawh_Hmong;16B78,Unknown;16B7D,Pahawh_Hmong;16B90,Unknown;16D40,Kirat_Rai;16D7A,Unknown;16E40,Medefaidrin;16E9B,Unknown;16F00,Miao;16F4B,Unknown;16F4F,Miao;16F88,Unknown;16F8F,Miao;16FA0,Unknown;16FE0,Tangut;16FE1,Nushu;16FE2,Han;16FE4,Khitan_Small_Script;16FE5,Unknown;16FF0,Han;16FF7,Unknown;17000,Tangut;18B00,Khitan_Small_Script;18CD6,Unknown;18CFF,Khitan_Small_Script;18D00,Tangut;18D1F,Unknown;18D80,Tangut;18DF3,Unknown;1AFF0,Katakana;1AFF4,Unknown;1AFF5,Katakana;1AFFC,Unknown;1AFFD,Katakana;1AFFF,Unknown;1B000,Katakana;1B001,Hiragana;1B120,Katakana;1B123,Unknown;1B132,Hiragana;1B133,Unknown;1B150,Hiragana;1B153,Unknown;1B155,Katakana;1B156,Unknown;1B164,Katakana;1B168,Unknown;1B170,Nushu;1B2FC,Unknown;1BC00,Duployan;1BC6B,Unknown;1BC70,Duployan;1BC7D,Unknown;1BC80,Duployan;1BC89,Unknown;1BC90,Duployan;1BC9A,Unknown;1BC9C,Duployan;1BCA0,Common;1BCA4,Unknown;1CC00,Common;1CCFD,Unknown;1CD00,Common;1CEB4,Unknown;1CEBA,Common;1CED1,Unknown;1CEE0,Common;1CEF1,Unknown;1CF00,Inherited;1CF2E,Unknown;1CF30,Inherited;1CF47,Unknown;1CF50,Common;1CFC4,Unknown;1D000,Common;1D0F6,Unknown;1D100,Common;1D127,Unknown;1D129,Common;1D167,Inherited;1D16A,Common;1D17B,Inherited;1D183,Common;1D185,Inherited;1D18C,Common;1D1AA,Inherited;1D1AE,Common;1D1EB,Unknown;1D200,Greek;1D246,Unknown;1D2C0,Common;1D2D4,Unknown;1D2E0,Common;1D2F4,Unknown;1D300,Common;1D357,Unknown;1D360,Common;1D379,Unknown;1D400,Common;1D455,Unknown;1D456,Common;1D49D,Unknown;1D49E,Common;1D4A0,Unknown;1D4A2,Common;1D4A3,Unknown;1D4A5,Common;1D4A7,Unknown;1D4A9,Common;1D4AD,Unknown;1D4AE,Common;1D4BA,Unknown;1D4BB,Common;1D4BC,Unknown;1D4BD,Common;1D4C4,Unknown;1D4C5,Common;1D506,Unknown;1D507,Common;1D50B,Unknown;1D50D,Common;1D515,Unknown;1D516,Common;1D51D,Unknown;1D51E,Common;1D53A,Unknown;1D53B,Common;1D53F,Unknown;1D540,Common;1D545,Unknown;1D546,Common;1D547,Unknown;1D54A,Common;1D551,Unknown;1D552,Common;1D6A6,Unknown;1D6A8,Common;1D7CC,Unknown;1D7CE,Common;1D800,SignWriting;1DA8C,Unknown;1DA9B,SignWriting;1DAA0,Unknown;1DAA1,SignWriting;1DAB0,Unknown;1DF00,Latin;1DF1F,Unknown;1DF25,Latin;1DF2B,Unknown;1E000,Glagolitic;1E007,Unknown;1E008,Glagolitic;1E019,Unknown;1E01B,Glagolitic;1E022,Unknown;1E023,Glagolitic;1E025,Unknown;1E026,Glagolitic;1E02B,Unknown;1E030,Cyrillic;1E06E,Unknown;1E08F,Cyrillic;1E090,Unknown;1E100,Nyiakeng_Puachue_Hmong;1E12D,Unknown;1E130,Nyiakeng_Puachue_Hmong;1E13E,Unknown;1E140,Nyiakeng_Puachue_Hmong;1E14A,Unknown;1E14E,Nyiakeng_Puachue_Hmong;1E150,Unknown;1E290,Toto;1E2AF,Unknown;1E2C0,Wancho;1E2FA,Unknown;1E2FF,Wancho;1E300,Unknown;1E4D0,Nag_Mundari;1E4FA,Unknown;1E5D0,Ol_Onal;1E5FB,Unknown;1E5FF,Ol_Onal;1E600,Unknown;1E7E0,Ethiopic;1E7E7,Unknown;1E7E8,Ethiopic;1E7EC,Unknown;1E7ED,Ethiopic;1E7EF,Unknown;1E7F0,Ethiopic;1E7FF,Unknown;1E800,Mende_Kikakui;1E8C5,Unknown;1E8C7,Mende_Kikakui;1E8D7,Unknown;1E900,Adlam;1E94C,Unknown;1E950,Adlam;1E95A,Unknown;1E95E,Adlam;1E960,Unknown;1EC71,Common;1ECB5,Unknown;1ED01,Common;1ED3E,Unknown;1EE00,Arabic;1EE04,Unknown;1EE05,Arabic;1EE20,Unknown;1EE21,Arabic;1EE23,Unknown;1EE24,Arabic;1EE25,Unknown;1EE27,Arabic;1EE28,Unknown;1EE29,Arabic;1EE33,Unknown;1EE34,Arabic;1EE38,Unknown;1EE39,Arabic;1EE3A,Unknown;1EE3B,Arabic;1EE3C,Unknown;1EE42,Arabic;1EE43,Unknown;1EE47,Arabic;1EE48,Unknown;1EE49,Arabic;1EE4A,Unknown;1EE4B,Arabic;1EE4C,Unknown;1EE4D,Arabic;1EE50,Unknown;1EE51,Arabic;1EE53,Unknown;1EE54,Arabic;1EE55,Unknown;1EE57,Arabic;1EE58,Unknown;1EE59,Arabic;1EE5A,Unknown;1EE5B,Arabic;1EE5C,Unknown;1EE5D,Arabic;1EE5E,Unknown;1EE5F,Arabic;1EE60,Unknown;1EE61,Arabic;1EE63,Unknown;1EE64,Arabic;1EE65,Unknown;1EE67,Arabic;1EE6B,Unknown;1EE6C,Arabic;1EE73,Unknown;1EE74,Arabic;1EE78,Unknown;1EE79,Arabic;1EE7D,Unknown;1EE7E,Arabic;1EE7F,Unknown;1EE80,Arabic;1EE8A,Unknown;1EE8B,Arabic;1EE9C,Unknown;1EEA1,Arabic;1EEA4,Unknown;1EEA5,Arabic;1EEAA,Unknown;1EEAB,Arabic;1EEBC,Unknown;1EEF0,Arabic;1EEF2,Unknown;1F000,Common;1F02C,Unknown;1F030,Common;1F094,Unknown;1F0A0,Common;1F0AF,Unknown;1F0B1,Common;1F0C0,Unknown;1F0C1,Common;1F0D0,Unknown;1F0D1,Common;1F0F6,Unknown;1F100,Common;1F1AE,Unknown;1F1E6,Common;1F200,Hiragana;1F201,Common;1F203,Unknown;1F210,Common;1F23C,Unknown;1F240,Common;1F249,Unknown;1F250,Common;1F252,Unknown;1F260,Common;1F266,Unknown;1F300,Common;1F6D9,Unknown;1F6DC,Common;1F6ED,Unknown;1F6F0,Common;1F6FD,Unknown;1F700,Common;1F7DA,Unknown;1F7E0,Common;1F7EC,Unknown;1F7F0,Common;1F7F1,Unknown;1F800,Common;1F80C,Unknown;1F810,Common;1F848,Unknown;1F850,Common;1F85A,Unknown;1F860,Common;1F888,Unknown;1F890,Common;1F8AE,Unknown;1F8B0,Common;1F8BC,Unknown;1F8C0,Common;1F8C2,Unknown;1F8D0,Common;1F8D9,Unknown;1F900,Common;1FA58,Unknown;1FA60,Common;1FA6E,Unknown;1FA70,Common;1FA7D,Unknown;1FA80,Common;1FA8B,Unknown;1FA8E,Common;1FAC7,Unknown;1FAC8,Common;1FAC9,Unknown;1FACD,Common;1FADD,Unknown;1FADF,Common;1FAEB,Unknown;1FAEF,Common;1FAF9,Unknown;1FB00,Common;1FB93,Unknown;1FB94,Common;1FBFB,Unknown;20000,Han;2A6E0,Unknown;2A700,Han;2B81E,Unknown;2B820,Han;2CEAE,Unknown;2CEB0,Han;2EBE1,Unknown;2EBF0,Han;2EE5E,Unknown;2F800,Han;2FA1E,Unknown;30000,Han;3134B,Unknown;31350,Han;3347A,Unknown;E0001,Common;E0002,Unknown;E0020,Common;E0080,Unknown;E0100,Inherited;E01F0,Unknown"

/-- The binary properties a pattern may name: a record `=Name` starts a property, and the inclusive ranges of its code points follow. -/
def binaryPropertyText : String :=
  "=ASCII_Hex_Digit;30,39;41,46;61,66;=Alphabetic;41,5A;61,7A;AA,AA;B5,B5;BA,BA;C0,D6;D8,F6;F8,2C1;2C6,2D1;2E0,2E4;2EC,2EC;2EE,2EE;345,345;363,374;376,377;37A,37D;37F,37F;386,386;388,38A;38C,38C;38E,3A1;3A3,3F5;3F7,481;48A,52F;531,556;559,559;560,588;5B0,5BD;5BF,5BF;5C1,5C2;5C4,5C5;5C7,5C7;5D0,5EA;5EF,5F2;610,61A;620,657;659,65F;66E,6D3;6D5,6DC;6E1,6E8;6ED,6EF;6FA,6FC;6FF,6FF;710,73F;74D,7B1;7CA,7EA;7F4,7F5;7FA,7FA;800,817;81A,82C;840,858;860,86A;870,887;889,88F;897,897;8A0,8C9;8D4,8DF;8E3,8E9;8F0,93B;93D,94C;94E,950;955,963;971,983;985,98C;98F,990;993,9A8;9AA,9B0;9B2,9B2;9B6,9B9;9BD,9C4;9C7,9C8;9CB,9CC;9CE,9CE;9D7,9D7;9DC,9DD;9DF,9E3;9F0,9F1;9FC,9FC;A01,A03;A05,A0A;A0F,A10;A13,A28;A2A,A30;A32,A33;A35,A36;A38,A39;A3E,A42;A47,A48;A4B,A4C;A51,A51;A59,A5C;A5E,A5E;A70,A75;A81,A83;A85,A8D;A8F,A91;A93,AA8;AAA,AB0;AB2,AB3;AB5,AB9;ABD,AC5;AC7,AC9;ACB,ACC;AD0,AD0;AE0,AE3;AF9,AFC;B01,B03;B05,B0C;B0F,B10;B13,B28;B2A,B30;B32,B33;B35,B39;B3D,B44;B47,B48;B4B,B4C;B56,B57;B5C,B5D;B5F,B63;B71,B71;B82,B83;B85,B8A;B8E,B90;B92,B95;B99,B9A;B9C,B9C;B9E,B9F;BA3,BA4;BA8,BAA;BAE,BB9;BBE,BC2;BC6,BC8;BCA,BCC;BD0,BD0;BD7,BD7;C00,C0C;C0E,C10;C12,C28;C2A,C39;C3D,C44;C46,C48;C4A,C4C;C55,C56;C58,C5A;C5C,C5D;C60,C63;C80,C83;C85,C8C;C8E,C90;C92,CA8;CAA,CB3;CB5,CB9;CBD,CC4;CC6,CC8;CCA,CCC;CD5,CD6;CDC,CDE;CE0,CE3;CF1,CF3;D00,D0C;D0E,D10;D12,D3A;D3D,D44;D46,D48;D4A,D4C;D4E,D4E;D54,D57;D5F,D63;D7A,D7F;D81,D83;D85,D96;D9A,DB1;DB3,DBB;DBD,DBD;DC0,DC6;DCF,DD4;DD6,DD6;DD8,DDF;DF2,DF3;E01,E3A;E40,E46;E4D,E4D;E81,E82;E84,E84;E86,E8A;E8C,EA3;EA5,EA5;EA7,EB9;EBB,EBD;EC0,EC4;EC6,EC6;ECD,ECD;EDC,EDF;F00,F00;F40,F47;F49,F6C;F71,F83;F88,F97;F99,FBC;1000,1036;1038,1038;103B,103F;1050,108F;109A,109D;10A0,10C5;10C7,10C7;10CD,10CD;10D0,10FA;10FC,1248;124A,124D;1250,1256;1258,1258;125A,125D;1260,1288;128A,128D;1290,12B0;12B2,12B5;12B8,12BE;12C0,12C0;12C2,12C5;12C8,12D6;12D8,1310;1312,1315;1318,135A;1380,138F;13A0,13F5;13F8,13FD;1401,166C;166F,167F;1681,169A;16A0,16EA;16EE,16F8;1700,1713;171F,1733;1740,1753;1760,176C;176E,1770;1772,1773;1780,17B3;17B6,17C8;17D7,17D7;17DC,17DC;1820,1878;1880,18AA;18B0,18F5;1900,191E;1920,192B;1930,1938;1950,196D;1970,1974;1980,19AB;19B0,19C9;1A00,1A1B;1A20,1A5E;1A61,1A74;1AA7,1AA7;1ABF,1AC0;1ACC,1ACE;1B00,1B33;1B35,1B43;1B45,1B4C;1B80,1BA9;1BAC,1BAF;1BBA,1BE5;1BE7,1BF1;1C00,1C36;1C4D,1C4F;1C5A,1C7D;1C80,1C8A;1C90,1CBA;1CBD,1CBF;1CE9,1CEC;1CEE,1CF3;1CF5,1CF6;1CFA,1CFA;1D00,1DBF;1DD3,1DF4;1E00,1F15;1F18,1F1D;1F20,1F45;1F48,1F4D;1F50,1F57;1F59,1F59;1F5B,1F5B;1F5D,1F5D;1F5F,1F7D;1F80,1FB4;1FB6,1FBC;1FBE,1FBE;1FC2,1FC4;1FC6,1FCC;1FD0,1FD3;1FD6,1FDB;1FE0,1FEC;1FF2,1FF4;1FF6,1FFC;2071,2071;207F,207F;2090,209C;2102,2102;2107,2107;210A,2113;2115,2115;2119,211D;2124,2124;2126,2126;2128,2128;212A,212D;212F,2139;213C,213F;2145,2149;214E,214E;2160,2188;24B6,24E9;2C00,2CE4;2CEB,2CEE;2CF2,2CF3;2D00,2D25;2D27,2D27;2D2D,2D2D;2D30,2D67;2D6F,2D6F;2D80,2D96;2DA0,2DA6;2DA8,2DAE;2DB0,2DB6;2DB8,2DBE;2DC0,2DC6;2DC8,2DCE;2DD0,2DD6;2DD8,2DDE;2DE0,2DFF;2E2F,2E2F;3005,3007;3021,3029;3031,3035;3038,303C;3041,3096;309D,309F;30A1,30FA;30FC,30FF;3105,312F;3131,318E;31A0,31BF;31F0,31FF;3400,4DBF;4E00,A48C;A4D0,A4FD;A500,A60C;A610,A61F;A62A,A62B;A640,A66E;A674,A67B;A67F,A6EF;A717,A71F;A722,A788;A78B,A7DC;A7F1,A805;A807,A827;A840,A873;A880,A8C3;A8C5,A8C5;A8F2,A8F7;A8FB,A8FB;A8FD,A8FF;A90A,A92A;A930,A952;A960,A97C;A980,A9B2;A9B4,A9BF;A9CF,A9CF;A9E0,A9EF;A9FA,A9FE;AA00,AA36;AA40,AA4D;AA60,AA76;AA7A,AABE;AAC0,AAC0;AAC2,AAC2;AADB,AADD;AAE0,AAEF;AAF2,AAF5;AB01,AB06;AB09,AB0E;AB11,AB16;AB20,AB26;AB28,AB2E;AB30,AB5A;AB5C,AB69;AB70,ABEA;AC00,D7A3;D7B0,D7C6;D7CB,D7FB;F900,FA6D;FA70,FAD9;FB00,FB06;FB13,FB17;FB1D,FB28;FB2A,FB36;FB38,FB3C;FB3E,FB3E;FB40,FB41;FB43,FB44;FB46,FBB1;FBD3,FD3D;FD50,FD8F;FD92,FDC7;FDF0,FDFB;FE70,FE74;FE76,FEFC;FF21,FF3A;FF41,FF5A;FF66,FFBE;FFC2,FFC7;FFCA,FFCF;FFD2,FFD7;FFDA,FFDC;10000,1000B;1000D,10026;10028,1003A;1003C,1003D;1003F,1004D;10050,1005D;10080,100FA;10140,10174;10280,1029C;102A0,102D0;10300,1031F;1032D,1034A;10350,1037A;10380,1039D;103A0,103C3;103C8,103CF;103D1,103D5;10400,1049D;104B0,104D3;104D8,104FB;10500,10527;10530,10563;10570,1057A;1057C,1058A;1058C,10592;10594,10595;10597,105A1;105A3,105B1;105B3,105B9;105BB,105BC;105C0,105F3;10600,10736;10740,10755;10760,10767;10780,10785;10787,107B0;107B2,107BA;10800,10805;10808,10808;1080A,10835;10837,10838;1083C,1083C;1083F,10855;10860,10876;10880,1089E;108E0,108F2;108F4,108F5;10900,10915;10920,10939;10940,10959;10980,109B7;109BE,109BF;10A00,10A03;10A05,10A06;10A0C,10A13;10A15,10A17;10A19,10A35;10A60,10A7C;10A80,10A9C;10AC0,10AC7;10AC9,10AE4;10B00,10B35;10B40,10B55;10B60,10B72;10B80,10B91;10C00,10C48;10C80,10CB2;10CC0,10CF2;10D00,10D27;10D4A,10D65;10D69,10D69;10D6F,10D85;10E80,10EA9;10EAB,10EAC;10EB0,10EB1;10EC2,10EC7;10EFA,10EFC;10F00,10F1C;10F27,10F27;10F30,10F45;10F70,10F81;10FB0,10FC4;10FE0,10FF6;11000,11045;11071,11075;11080,110B8;110C2,110C2;110D0,110E8;11100,11132;11144,11147;11150,11172;11176,11176;11180,111BF;111C1,111C4;111CE,111CF;111DA,111DA;111DC,111DC;11200,11211;11213,11234;11237,11237;1123E,11241;11280,11286;11288,11288;1128A,1128D;1128F,1129D;1129F,112A8;112B0,112E8;11300,11303;11305,1130C;1130F,11310;11313,11328;1132A,11330;11332,11333;11335,11339;1133D,11344;11347,11348;1134B,1134C;11350,11350;11357,11357;1135D,11363;11380,11389;1138B,1138B;1138E,1138E;11390,113B5;113B7,113C0;113C2,113C2;113C5,113C5;113C7,113CA;113CC,113CD;113D1,113D1;113D3,113D3;11400,11441;11443,11445;11447,1144A;1145F,11461;11480,114C1;114C4,114C5;114C7,114C7;11580,115B5;115B8,115BE;115D8,115DD;11600,1163E;11640,11640;11644,11644;11680,116B5;116B8,116B8;11700,1171A;1171D,1172A;11740,11746;11800,11838;118A0,118DF;118FF,11906;11909,11909;1190C,11913;11915,11916;11918,11935;11937,11938;1193B,1193C;1193F,11942;119A0,119A7;119AA,119D7;119DA,119DF;119E1,119E1;119E3,119E4;11A00,11A32;11A35,11A3E;11A50,11A97;11A9D,11A9D;11AB0,11AF8;11B60,11B67;11BC0,11BE0;11C00,11C08;11C0A,11C36;11C38,11C3E;11C40,11C40;11C72,11C8F;11C92,11CA7;11CA9,11CB6;11D00,11D06;11D08,11D09;11D0B,11D36;11D3A,11D3A;11D3C,11D3D;11D3F,11D41;11D43,11D43;11D46,11D47;11D60,11D65;11D67,11D68;11D6A,11D8E;11D90,11D91;11D93,11D96;11D98,11D98;11DB0,11DDB;11EE0,11EF6;11F00,11F10;11F12,11F3A;11F3E,11F40;11FB0,11FB0;12000,12399;12400,1246E;12480,12543;12F90,12FF0;13000,1342F;13441,13446;13460,143FA;14400,14646;16100,1612E;16800,16A38;16A40,16A5E;16A70,16ABE;16AD0,16AED;16B00,16B2F;16B40,16B43;16B63,16B77;16B7D,16B8F;16D40,16D6C;16E40,16E7F;16EA0,16EB8;16EBB,16ED3;16F00,16F4A;16F4F,16F87;16F8F,16F9F;16FE0,16FE1;16FE3,16FE3;16FF0,16FF6;17000,18CD5;18CFF,18D1E;18D80,18DF2;1AFF0,1AFF3;1AFF5,1AFFB;1AFFD,1AFFE;1B000,1B122;1B132,1B132;1B150,1B152;1B155,1B155;1B164,1B167;1B170,1B2FB;1BC00,1BC6A;1BC70,1BC7C;1BC80,1BC88;1BC90,1BC99;1BC9E,1BC9E;1D400,1D454;1D456,1D49C;1D49E,1D49F;1D4A2,1D4A2;1D4A5,1D4A6;1D4A9,1D4AC;1D4AE,1D4B9;1D4BB,1D4BB;1D4BD,1D4C3;1D4C5,1D505;1D507,1D50A;1D50D,1D514;1D516,1D51C;1D51E,1D539;1D53B,1D53E;1D540,1D544;1D546,1D546;1D54A,1D550;1D552,1D6A5;1D6A8,1D6C0;1D6C2,1D6DA;1D6DC,1D6FA;1D6FC,1D714;1D716,1D734;1D736,1D74E;1D750,1D76E;1D770,1D788;1D78A,1D7A8;1D7AA,1D7C2;1D7C4,1D7CB;1DF00,1DF1E;1DF25,1DF2A;1E000,1E006;1E008,1E018;1E01B,1E021;1E023,1E024;1E026,1E02A;1E030,1E06D;1E08F,1E08F;1E100,1E12C;1E137,1E13D;1E14E,1E14E;1E290,1E2AD;1E2C0,1E2EB;1E4D0,1E4EB;1E5D0,1E5ED;1E5F0,1E5F0;1E6C0,1E6DE;1E6E0,1E6F5;1E6FE,1E6FF;1E7E0,1E7E6;1E7E8,1E7EB;1E7ED,1E7EE;1E7F0,1E7FE;1E800,1E8C4;1E900,1E943;1E947,1E947;1E94B,1E94B;1EE00,1EE03;1EE05,1EE1F;1EE21,1EE22;1EE24,1EE24;1EE27,1EE27;1EE29,1EE32;1EE34,1EE37;1EE39,1EE39;1EE3B,1EE3B;1EE42,1EE42;1EE47,1EE47;1EE49,1EE49;1EE4B,1EE4B;1EE4D,1EE4F;1EE51,1EE52;1EE54,1EE54;1EE57,1EE57;1EE59,1EE59;1EE5B,1EE5B;1EE5D,1EE5D;1EE5F,1EE5F;1EE61,1EE62;1EE64,1EE64;1EE67,1EE6A;1EE6C,1EE72;1EE74,1EE77;1EE79,1EE7C;1EE7E,1EE7E;1EE80,1EE89;1EE8B,1EE9B;1EEA1,1EEA3;1EEA5,1EEA9;1EEAB,1EEBB;1F130,1F149;1F150,1F169;1F170,1F189;20000,2A6DF;2A700,2B81D;2B820,2CEAD;2CEB0,2EBE0;2EBF0,2EE5D;2F800,2FA1D;30000,3134A;31350,33479;=Bidi_Control;61C,61C;200E,200F;202A,202E;2066,2069;=Bidi_Mirrored;28,29;3C,3C;3E,3E;5B,5B;5D,5D;7B,7B;7D,7D;AB,AB;BB,BB;F3A,F3D;169B,169C;2039,203A;2045,2046;207D,207E;208D,208E;2140,2140;2201,2204;2208,220D;2211,2211;2215,2216;221A,221D;221F,2222;2224,2224;2226,2226;222B,2233;2239,2239;223B,224C;2252,2255;225F,2260;2262,2262;2264,226B;226D,228C;228F,2292;2298,2298;22A2,22A3;22A6,22B8;22BE,22BF;22C9,22CD;22D0,22D1;22D6,22ED;22F0,22FF;2308,230B;2320,2321;2329,232A;2768,2775;27C0,27C0;27C3,27C6;27C8,27C9;27CB,27CD;27D3,27D6;27DC,27DE;27E2,27EF;2983,2998;299B,29A0;29A2,29AF;29B8,29B8;29C0,29C5;29C9,29C9;29CE,29D2;29D4,29D5;29D8,29DC;29E1,29E1;29E3,29E5;29E8,29E9;29F4,29F9;29FC,29FD;2A0A,2A1C;2A1E,2A21;2A24,2A24;2A26,2A26;2A29,2A29;2A2B,2A2E;2A34,2A35;2A3C,2A3E;2A57,2A58;2A64,2A65;2A6A,2A6D;2A6F,2A70;2A73,2A74;2A79,2AA3;2AA6,2AAD;2AAF,2AD6;2ADC,2ADC;2ADE,2ADE;2AE2,2AE6;2AEC,2AEE;2AF3,2AF3;2AF7,2AFB;2AFD,2AFD;2BFE,2BFE;2E02,2E05;2E09,2E0A;2E0C,2E0D;2E1C,2E1D;2E20,2E29;2E55,2E5C;3008,3011;3014,301B;FE59,FE5E;FE64,FE65;FF08,FF09;FF1C,FF1C;FF1E,FF1E;FF3B,FF3B;FF3D,FF3D;FF5B,FF5B;FF5D,FF5D;FF5F,FF60;FF62,FF63;1D6DB,1D6DB;1D715,1D715;1D74F,1D74F;1D789,1D789;1D7C3,1D7C3;=Case_Ignorable;27,27;2E,2E;3A,3A;5E,5E;60,60;A8,A8;AD,AD;AF,AF;B4,B4;B7,B8;2B0,36F;374,375;37A,37A;384,385;387,387;483,489;559,559;55F,55F;591,5BD;5BF,5BF;5C1,5C2;5C4,5C5;5C7,5C7;5F4,5F4;600,605;610,61A;61C,61C;640,640;64B,65F;670,670;6D6,6DD;6DF,6E8;6EA,6ED;70F,70F;711,711;730,74A;7A6,7B0;7EB,7F5;7FA,7FA;7FD,7FD;816,82D;859,85B;888,888;890,891;897,89F;8C9,902;93A,93A;93C,93C;941,948;94D,94D;951,957;962,963;971,971;981,981;9BC,9BC;9C1,9C4;9CD,9CD;9E2,9E3;9FE,9FE;A01,A02;A3C,A3C;A41,A42;A47,A48;A4B,A4D;A51,A51;A70,A71;A75,A75;A81,A82;ABC,ABC;AC1,AC5;AC7,AC8;ACD,ACD;AE2,AE3;AFA,AFF;B01,B01;B3C,B3C;B3F,B3F;B41,B44;B4D,B4D;B55,B56;B62,B63;B82,B82;BC0,BC0;BCD,BCD;C00,C00;C04,C04;C3C,C3C;C3E,C40;C46,C48;C4A,C4D;C55,C56;C62,C63;C81,C81;CBC,CBC;CBF,CBF;CC6,CC6;CCC,CCD;CE2,CE3;D00,D01;D3B,D3C;D41,D44;D4D,D4D;D62,D63;D81,D81;DCA,DCA;DD2,DD4;DD6,DD6;E31,E31;E34,E3A;E46,E4E;EB1,EB1;EB4,EBC;EC6,EC6;EC8,ECE;F18,F19;F35,F35;F37,F37;F39,F39;F71,F7E;F80,F84;F86,F87;F8D,F97;F99,FBC;FC6,FC6;102D,1030;1032,1037;1039,103A;103D,103E;1058,1059;105E,1060;1071,1074;1082,1082;1085,1086;108D,108D;109D,109D;10FC,10FC;135D,135F;1712,1714;1732,1733;1752,1753;1772,1773;17B4,17B5;17B7,17BD;17C6,17C6;17C9,17D3;17D7,17D7;17DD,17DD;180B,180F;1843,1843;1885,1886;18A9,18A9;1920,1922;1927,1928;1932,1932;1939,193B;1A17,1A18;1A1B,1A1B;1A56,1A56;1A58,1A5E;1A60,1A60;1A62,1A62;1A65,1A6C;1A73,1A7C;1A7F,1A7F;1AA7,1AA7;1AB0,1ADD;1AE0,1AEB;1B00,1B03;1B34,1B34;1B36,1B3A;1B3C,1B3C;1B42,1B42;1B6B,1B73;1B80,1B81;1BA2,1BA5;1BA8,1BA9;1BAB,1BAD;1BE6,1BE6;1BE8,1BE9;1BED,1BED;1BEF,1BF1;1C2C,1C33;1C36,1C37;1C78,1C7D;1CD0,1CD2;1CD4,1CE0;1CE2,1CE8;1CED,1CED;1CF4,1CF4;1CF8,1CF9;1D2C,1D6A;1D78,1D78;1D9B,1DFF;1FBD,1FBD;1FBF,1FC1;1FCD,1FCF;1FDD,1FDF;1FED,1FEF;1FFD,1FFE;200B,200F;2018,2019;2024,2024;2027,2027;202A,202E;2060,2064;2066,206F;2071,2071;207F,207F;2090,209C;20D0,20F0;2C7C,2C7D;2CEF,2CF1;2D6F,2D6F;2D7F,2D7F;2DE0,2DFF;2E2F,2E2F;3005,3005;302A,302D;3031,3035;303B,303B;3099,309E;30FC,30FE;A015,A015;A4F8,A4FD;A60C,A60C;A66F,A672;A674,A67D;A67F,A67F;A69C,A69F;A6F0,A6F1;A700,A721;A770,A770;A788,A78A;A7F1,A7F4;A7F8,A7F9;A802,A802;A806,A806;A80B,A80B;A825,A826;A82C,A82C;A8C4,A8C5;A8E0,A8F1;A8FF,A8FF;A926,A92D;A947,A951;A980,A982;A9B3,A9B3;A9B6,A9B9;A9BC,A9BD;A9CF,A9CF;A9E5,A9E6;AA29,AA2E;AA31,AA32;AA35,AA36;AA43,AA43;AA4C,AA4C;AA70,AA70;AA7C,AA7C;AAB0,AAB0;AAB2,AAB4;AAB7,AAB8;AABE,AABF;AAC1,AAC1;AADD,AADD;AAEC,AAED;AAF3,AAF4;AAF6,AAF6;AB5B,AB5F;AB69,AB6B;ABE5,ABE5;ABE8,ABE8;ABED,ABED;FB1E,FB1E;FBB2,FBC2;FE00,FE0F;FE13,FE13;FE20,FE2F;FE52,FE52;FE55,FE55;FEFF,FEFF;FF07,FF07;FF0E,FF0E;FF1A,FF1A;FF3E,FF3E;FF40,FF40;FF70,FF70;FF9E,FF9F;FFE3,FFE3;FFF9,FFFB;101FD,101FD;102E0,102E0;10376,1037A;10780,10785;10787,107B0;107B2,107BA;10A01,10A03;10A05,10A06;10A0C,10A0F;10A38,10A3A;10A3F,10A3F;10AE5,10AE6;10D24,10D27;10D4E,10D4E;10D69,10D6D;10D6F,10D6F;10EAB,10EAC;10EC5,10EC5;10EFA,10EFF;10F46,10F50;10F82,10F85;11001,11001;11038,11046;11070,11070;11073,11074;1107F,11081;110B3,110B6;110B9,110BA;110BD,110BD;110C2,110C2;110CD,110CD;11100,11102;11127,1112B;1112D,11134;11173,11173;11180,11181;111B6,111BE;111C9,111CC;111CF,111CF;1122F,11231;11234,11234;11236,11237;1123E,1123E;11241,11241;112DF,112DF;112E3,112EA;11300,11301;1133B,1133C;11340,11340;11366,1136C;11370,11374;113BB,113C0;113CE,113CE;113D0,113D0;113D2,113D2;113E1,113E2;11438,1143F;11442,11444;11446,11446;1145E,1145E;114B3,114B8;114BA,114BA;114BF,114C0;114C2,114C3;115B2,115B5;115BC,115BD;115BF,115C0;115DC,115DD;11633,1163A;1163D,1163D;1163F,11640;116AB,116AB;116AD,116AD;116B0,116B5;116B7,116B7;1171D,1171D;1171F,1171F;11722,11725;11727,1172B;1182F,11837;11839,1183A;1193B,1193C;1193E,1193E;11943,11943;119D4,119D7;119DA,119DB;119E0,119E0;11A01,11A0A;11A33,11A38;11A3B,11A3E;11A47,11A47;11A51,11A56;11A59,11A5B;11A8A,11A96;11A98,11A99;11B60,11B60;11B62,11B64;11B66,11B66;11C30,11C36;11C38,11C3D;11C3F,11C3F;11C92,11CA7;11CAA,11CB0;11CB2,11CB3;11CB5,11CB6;11D31,11D36;11D3A,11D3A;11D3C,11D3D;11D3F,11D45;11D47,11D47;11D90,11D91;11D95,11D95;11D97,11D97;11DD9,11DD9;11EF3,11EF4;11F00,11F01;11F36,11F3A;11F40,11F40;11F42,11F42;11F5A,11F5A;13430,13440;13447,13455;1611E,16129;1612D,1612F;16AF0,16AF4;16B30,16B36;16B40,16B43;16D40,16D42;16D6B,16D6C;16F4F,16F4F;16F8F,16F9F;16FE0,16FE1;16FE3,16FE4;16FF2,16FF3;1AFF0,1AFF3;1AFF5,1AFFB;1AFFD,1AFFE;1BC9D,1BC9E;1BCA0,1BCA3;1CF00,1CF2D;1CF30,1CF46;1D167,1D169;1D173,1D182;1D185,1D18B;1D1AA,1D1AD;1D242,1D244;1DA00,1DA36;1DA3B,1DA6C;1DA75,1DA75;1DA84,1DA84;1DA9B,1DA9F;1DAA1,1DAAF;1E000,1E006;1E008,1E018;1E01B,1E021;1E023,1E024;1E026,1E02A;1E030,1E06D;1E08F,1E08F;1E130,1E13D;1E2AE,1E2AE;1E2EC,1E2EF;1E4EB,1E4EF;1E5EE,1E5EF;1E6E3,1E6E3;1E6E6,1E6E6;1E6EE,1E6EF;1E6F5,1E6F5;1E6FF,1E6FF;1E8D0,1E8D6;1E944,1E94B;1F3FB,1F3FF;E0001,E0001;E0020,E007F;E0100,E01EF;=Cased;41,5A;61,7A;AA,AA;B5,B5;BA,BA;C0,D6;D8,F6;F8,1BA;1BC,1BF;1C4,293;296,2B8;2C0,2C1;2E0,2E4;345,345;370,373;376,377;37A,37D;37F,37F;386,386;388,38A;38C,38C;38E,3A1;3A3,3F5;3F7,481;48A,52F;531,556;560,588;10A0,10C5;10C7,10C7;10CD,10CD;10D0,10FA;10FC,10FF;13A0,13F5;13F8,13FD;1C80,1C8A;1C90,1CBA;1CBD,1CBF;1D00,1DBF;1E00,1F15;1F18,1F1D;1F20,1F45;1F48,1F4D;1F50,1F57;1F59,1F59;1F5B,1F5B;1F5D,1F5D;1F5F,1F7D;1F80,1FB4;1FB6,1FBC;1FBE,1FBE;1FC2,1FC4;1FC6,1FCC;1FD0,1FD3;1FD6,1FDB;1FE0,1FEC;1FF2,1FF4;1FF6,1FFC;2071,2071;207F,207F;2090,209C;2102,2102;2107,2107;210A,2113;2115,2115;2119,211D;2124,2124;2126,2126;2128,2128;212A,212D;212F,2134;2139,2139;213C,213F;2145,2149;214E,214E;2160,217F;2183,2184;24B6,24E9;2C00,2CE4;2CEB,2CEE;2CF2,2CF3;2D00,2D25;2D27,2D27;2D2D,2D2D;A640,A66D;A680,A69D;A722,A787;A78B,A78E;A790,A7DC;A7F1,A7F6;A7F8,A7FA;AB30,AB5A;AB5C,AB69;AB70,ABBF;FB00,FB06;FB13,FB17;FF21,FF3A;FF41,FF5A;10400,1044F;104B0,104D3;104D8,104FB;10570,1057A;1057C,1058A;1058C,10592;10594,10595;10597,105A1;105A3,105B1;105B3,105B9;105BB,105BC;10780,10780;10783,10785;10787,107B0;107B2,107BA;10C80,10CB2;10CC0,10CF2;10D50,10D65;10D70,10D85;118A0,118DF;16E40,16E7F;16EA0,16EB8;16EBB,16ED3;1D400,1D454;1D456,1D49C;1D49E,1D49F;1D4A2,1D4A2;1D4A5,1D4A6;1D4A9,1D4AC;1D4AE,1D4B9;1D4BB,1D4BB;1D4BD,1D4C3;1D4C5,1D505;1D507,1D50A;1D50D,1D514;1D516,1D51C;1D51E,1D539;1D53B,1D53E;1D540,1D544;1D546,1D546;1D54A,1D550;1D552,1D6A5;1D6A8,1D6C0;1D6C2,1D6DA;1D6DC,1D6FA;1D6FC,1D714;1D716,1D734;1D736,1D74E;1D750,1D76E;1D770,1D788;1D78A,1D7A8;1D7AA,1D7C2;1D7C4,1D7CB;1DF00,1DF09;1DF0B,1DF1E;1DF25,1DF2A;1E030,1E06D;1E900,1E943;1F130,1F149;1F150,1F169;1F170,1F189;=Changes_When_Casefolded;41,5A;B5,B5;C0,D6;D8,DF;100,100;102,102;104,104;106,106;108,108;10A,10A;10C,10C;10E,10E;110,110;112,112;114,114;116,116;118,118;11A,11A;11C,11C;11E,11E;120,120;122,122;124,124;126,126;128,128;12A,12A;12C,12C;12E,12E;130,130;132,132;134,134;136,136;139,139;13B,13B;13D,13D;13F,13F;141,141;143,143;145,145;147,147;149,14A;14C,14C;14E,14E;150,150;152,152;154,154;156,156;158,158;15A,15A;15C,15C;15E,15E;160,160;162,162;164,164;166,166;168,168;16A,16A;16C,16C;16E,16E;170,170;172,172;174,174;176,176;178,179;17B,17B;17D,17D;17F,17F;181,182;184,184;186,187;189,18B;18E,191;193,194;196,198;19C,19D;19F,1A0;1A2,1A2;1A4,1A4;1A6,1A7;1A9,1A9;1AC,1AC;1AE,1AF;1B1,1B3;1B5,1B5;1B7,1B8;1BC,1BC;1C4,1C5;1C7,1C8;1CA,1CB;1CD,1CD;1CF,1CF;1D1,1D1;1D3,1D3;1D5,1D5;1D7,1D7;1D9,1D9;1DB,1DB;1DE,1DE;1E0,1E0;1E2,1E2;1E4,1E4;1E6,1E6;1E8,1E8;1EA,1EA;1EC,1EC;1EE,1EE;1F1,1F2;1F4,1F4;1F6,1F8;1FA,1FA;1FC,1FC;1FE,1FE;200,200;202,202;204,204;206,206;208,208;20A,20A;20C,20C;20E,20E;210,210;212,212;214,214;216,216;218,218;21A,21A;21C,21C;21E,21E;220,220;222,222;224,224;226,226;228,228;22A,22A;22C,22C;22E,22E;230,230;232,232;23A,23B;23D,23E;241,241;243,246;248,248;24A,24A;24C,24C;24E,24E;345,345;370,370;372,372;376,376;37F,37F;386,386;388,38A;38C,38C;38E,38F;391,3A1;3A3,3AB;3C2,3C2;3CF,3D1;3D5,3D6;3D8,3D8;3DA,3DA;3DC,3DC;3DE,3DE;3E0,3E0;3E2,3E2;3E4,3E4;3E6,3E6;3E8,3E8;3EA,3EA;3EC,3EC;3EE,3EE;3F0,3F1;3F4,3F5;3F7,3F7;3F9,3FA;3FD,42F;460,460;462,462;464,464;466,466;468,468;46A,46A;46C,46C;46E,46E;470,470;472,472;474,474;476,476;478,478;47A,47A;47C,47C;47E,47E;480,480;48A,48A;48C,48C;48E,48E;490,490;492,492;494,494;496,496;498,498;49A,49A;49C,49C;49E,49E;4A0,4A0;4A2,4A2;4A4,4A4;4A6,4A6;4A8,4A8;4AA,4AA;4AC,4AC;4AE,4AE;4B0,4B0;4B2,4B2;4B4,4B4;4B6,4B6;4B8,4B8;4BA,4BA;4BC,4BC;4BE,4BE;4C0,4C1;4C3,4C3;4C5,4C5;4C7,4C7;4C9,4C9;4CB,4CB;4CD,4CD;4D0,4D0;4D2,4D2;4D4,4D4;4D6,4D6;4D8,4D8;4DA,4DA;4DC,4DC;4DE,4DE;4E0,4E0;4E2,4E2;4E4,4E4;4E6,4E6;4E8,4E8;4EA,4EA;4EC,4EC;4EE,4EE;4F0,4F0;4F2,4F2;4F4,4F4;4F6,4F6;4F8,4F8;4FA,4FA;4FC,4FC;4FE,4FE;500,500;502,502;504,504;506,506;508,508;50A,50A;50C,50C;50E,50E;510,510;512,512;514,514;516,516;518,518;51A,51A;51C,51C;51E,51E;520,520;522,522;524,524;526,526;528,528;52A,52A;52C,52C;52E,52E;531,556;587,587;10A0,10C5;10C7,10C7;10CD,10CD;13F8,13FD;1C80,1C89;1C90,1CBA;1CBD,1CBF;1E00,1E00;1E02,1E02;1E04,1E04;1E06,1E06;1E08,1E08;1E0A,1E0A;1E0C,1E0C;1E0E,1E0E;1E10,1E10;1E12,1E12;1E14,1E14;1E16,1E16;1E18,1E18;1E1A,1E1A;1E1C,1E1C;1E1E,1E1E;1E20,1E20;1E22,1E22;1E24,1E24;1E26,1E26;1E28,1E28;1E2A,1E2A;1E2C,1E2C;1E2E,1E2E;1E30,1E30;1E32,1E32;1E34,1E34;1E36,1E36;1E38,1E38;1E3A,1E3A;1E3C,1E3C;1E3E,1E3E;1E40,1E40;1E42,1E42;1E44,1E44;1E46,1E46;1E48,1E48;1E4A,1E4A;1E4C,1E4C;1E4E,1E4E;1E50,1E50;1E52,1E52;1E54,1E54;1E56,1E56;1E58,1E58;1E5A,1E5A;1E5C,1E5C;1E5E,1E5E;1E60,1E60;1E62,1E62;1E64,1E64;1E66,1E66;1E68,1E68;1E6A,1E6A;1E6C,1E6C;1E6E,1E6E;1E70,1E70;1E72,1E72;1E74,1E74;1E76,1E76;1E78,1E78;1E7A,1E7A;1E7C,1E7C;1E7E,1E7E;1E80,1E80;1E82,1E82;1E84,1E84;1E86,1E86;1E88,1E88;1E8A,1E8A;1E8C,1E8C;1E8E,1E8E;1E90,1E90;1E92,1E92;1E94,1E94;1E9A,1E9B;1E9E,1E9E;1EA0,1EA0;1EA2,1EA2;1EA4,1EA4;1EA6,1EA6;1EA8,1EA8;1EAA,1EAA;1EAC,1EAC;1EAE,1EAE;1EB0,1EB0;1EB2,1EB2;1EB4,1EB4;1EB6,1EB6;1EB8,1EB8;1EBA,1EBA;1EBC,1EBC;1EBE,1EBE;1EC0,1EC0;1EC2,1EC2;1EC4,1EC4;1EC6,1EC6;1EC8,1EC8;1ECA,1ECA;1ECC,1ECC;1ECE,1ECE;1ED0,1ED0;1ED2,1ED2;1ED4,1ED4;1ED6,1ED6;1ED8,1ED8;1EDA,1EDA;1EDC,1EDC;1EDE,1EDE;1EE0,1EE0;1EE2,1EE2;1EE4,1EE4;1EE6,1EE6;1EE8,1EE8;1EEA,1EEA;1EEC,1EEC;1EEE,1EEE;1EF0,1EF0;1EF2,1EF2;1EF4,1EF4;1EF6,1EF6;1EF8,1EF8;1EFA,1EFA;1EFC,1EFC;1EFE,1EFE;1F08,1F0F;1F18,1F1D;1F28,1F2F;1F38,1F3F;1F48,1F4D;1F59,1F59;1F5B,1F5B;1F5D,1F5D;1F5F,1F5F;1F68,1F6F;1F80,1FAF;1FB2,1FB4;1FB7,1FBC;1FC2,1FC4;1FC7,1FCC;1FD8,1FDB;1FE8,1FEC;1FF2,1FF4;1FF7,1FFC;2126,2126;212A,212B;2132,2132;2160,216F;2183,2183;24B6,24CF;2C00,2C2F;2C60,2C60;2C62,2C64;2C67,2C67;2C69,2C69;2C6B,2C6B;2C6D,2C70;2C72,2C72;2C75,2C75;2C7E,2C80;2C82,2C82;2C84,2C84;2C86,2C86;2C88,2C88;2C8A,2C8A;2C8C,2C8C;2C8E,2C8E;2C90,2C90;2C92,2C92;2C94,2C94;2C96,2C96;2C98,2C98;2C9A,2C9A;2C9C,2C9C;2C9E,2C9E;2CA0,2CA0;2CA2,2CA2;2CA4,2CA4;2CA6,2CA6;2CA8,2CA8;2CAA,2CAA;2CAC,2CAC;2CAE,2CAE;2CB0,2CB0;2CB2,2CB2;2CB4,2CB4;2CB6,2CB6;2CB8,2CB8;2CBA,2CBA;2CBC,2CBC;2CBE,2CBE;2CC0,2CC0;2CC2,2CC2;2CC4,2CC4;2CC6,2CC6;2CC8,2CC8;2CCA,2CCA;2CCC,2CCC;2CCE,2CCE;2CD0,2CD0;2CD2,2CD2;2CD4,2CD4;2CD6,2CD6;2CD8,2CD8;2CDA,2CDA;2CDC,2CDC;2CDE,2CDE;2CE0,2CE0;2CE2,2CE2;2CEB,2CEB;2CED,2CED;2CF2,2CF2;A640,A640;A642,A642;A644,A644;A646,A646;A648,A648;A64A,A64A;A64C,A64C;A64E,A64E;A650,A650;A652,A652;A654,A654;A656,A656;A658,A658;A65A,A65A;A65C,A65C;A65E,A65E;A660,A660;A662,A662;A664,A664;A666,A666;A668,A668;A66A,A66A;A66C,A66C;A680,A680;A682,A682;A684,A684;A686,A686;A688,A688;A68A,A68A;A68C,A68C;A68E,A68E;A690,A690;A692,A692;A694,A694;A696,A696;A698,A698;A69A,A69A;A722,A722;A724,A724;A726,A726;A728,A728;A72A,A72A;A72C,A72C;A72E,A72E;A732,A732;A734,A734;A736,A736;A738,A738;A73A,A73A;A73C,A73C;A73E,A73E;A740,A740;A742,A742;A744,A744;A746,A746;A748,A748;A74A,A74A;A74C,A74C;A74E,A74E;A750,A750;A752,A752;A754,A754;A756,A756;A758,A758;A75A,A75A;A75C,A75C;A75E,A75E;A760,A760;A762,A762;A764,A764;A766,A766;A768,A768;A76A,A76A;A76C,A76C;A76E,A76E;A779,A779;A77B,A77B;A77D,A77E;A780,A780;A782,A782;A784,A784;A786,A786;A78B,A78B;A78D,A78D;A790,A790;A792,A792;A796,A796;A798,A798;A79A,A79A;A79C,A79C;A79E,A79E;A7A0,A7A0;A7A2,A7A2;A7A4,A7A4;A7A6,A7A6;A7A8,A7A8;A7AA,A7AE;A7B0,A7B4;A7B6,A7B6;A7B8,A7B8;A7BA,A7BA;A7BC,A7BC;A7BE,A7BE;A7C0,A7C0;A7C2,A7C2;A7C4,A7C7;A7C9,A7C9;A7CB,A7CC;A7CE,A7CE;A7D0,A7D0;A7D2,A7D2;A7D4,A7D4;A7D6,A7D6;A7D8,A7D8;A7DA,A7DA;A7DC,A7DC;A7F5,A7F5;AB70,ABBF;FB00,FB06;FB13,FB17;FF21,FF3A;10400,10427;104B0,104D3;10570,1057A;1057C,1058A;1058C,10592;10594,10595;10C80,10CB2;10D50,10D65;118A0,118BF;16E40,16E5F;16EA0,16EB8;1E900,1E921;=Changes_When_Casemapped;41,5A;61,7A;B5,B5;C0,D6;D8,F6;F8,137;139,18C;18E,1A9;1AC,1B9;1BC,1BD;1BF,1BF;1C4,220;222,233;23A,254;256,257;259,259;25B,25C;260,261;263,266;268,26C;26F,26F;271,272;275,275;27D,27D;280,280;282,283;287,28C;292,292;29D,29E;345,345;370,373;376,377;37B,37D;37F,37F;386,386;388,38A;38C,38C;38E,3A1;3A3,3D1;3D5,3F5;3F7,3FB;3FD,481;48A,52F;531,556;561,587;10A0,10C5;10C7,10C7;10CD,10CD;10D0,10FA;10FD,10FF;13A0,13F5;13F8,13FD;1C80,1C8A;1C90,1CBA;1CBD,1CBF;1D79,1D79;1D7D,1D7D;1D8E,1D8E;1E00,1E9B;1E9E,1E9E;1EA0,1F15;1F18,1F1D;1F20,1F45;1F48,1F4D;1F50,1F57;1F59,1F59;1F5B,1F5B;1F5D,1F5D;1F5F,1F7D;1F80,1FB4;1FB6,1FBC;1FBE,1FBE;1FC2,1FC4;1FC6,1FCC;1FD0,1FD3;1FD6,1FDB;1FE0,1FEC;1FF2,1FF4;1FF6,1FFC;2126,2126;212A,212B;2132,2132;214E,214E;2160,217F;2183,2184;24B6,24E9;2C00,2C70;2C72,2C73;2C75,2C76;2C7E,2CE3;2CEB,2CEE;2CF2,2CF3;2D00,2D25;2D27,2D27;2D2D,2D2D;A640,A66D;A680,A69B;A722,A72F;A732,A76F;A779,A787;A78B,A78D;A790,A794;A796,A7AE;A7B0,A7DC;A7F5,A7F6;AB53,AB53;AB70,ABBF;FB00,FB06;FB13,FB17;FF21,FF3A;FF41,FF5A;10400,1044F;104B0,104D3;104D8,104FB;10570,1057A;1057C,1058A;1058C,10592;10594,10595;10597,105A1;105A3,105B1;105B3,105B9;105BB,105BC;10C80,10CB2;10CC0,10CF2;10D50,10D65;10D70,10D85;118A0,118DF;16E40,16E7F;16EA0,16EB8;16EBB,16ED3;1E900,1E943;=Changes_When_Lowercased;41,5A;C0,D6;D8,DE;100,100;102,102;104,104;106,106;108,108;10A,10A;10C,10C;10E,10E;110,110;112,112;114,114;116,116;118,118;11A,11A;11C,11C;11E,11E;120,120;122,122;124,124;126,126;128,128;12A,12A;12C,12C;12E,12E;130,130;132,132;134,134;136,136;139,139;13B,13B;13D,13D;13F,13F;141,141;143,143;145,145;147,147;14A,14A;14C,14C;14E,14E;150,150;152,152;154,154;156,156;158,158;15A,15A;15C,15C;15E,15E;160,160;162,162;164,164;166,166;168,168;16A,16A;16C,16C;16E,16E;170,170;172,172;174,174;176,176;178,179;17B,17B;17D,17D;181,182;184,184;186,187;189,18B;18E,191;193,194;196,198;19C,19D;19F,1A0;1A2,1A2;1A4,1A4;1A6,1A7;1A9,1A9;1AC,1AC;1AE,1AF;1B1,1B3;1B5,1B5;1B7,1B8;1BC,1BC;1C4,1C5;1C7,1C8;1CA,1CB;1CD,1CD;1CF,1CF;1D1,1D1;1D3,1D3;1D5,1D5;1D7,1D7;1D9,1D9;1DB,1DB;1DE,1DE;1E0,1E0;1E2,1E2;1E4,1E4;1E6,1E6;1E8,1E8;1EA,1EA;1EC,1EC;1EE,1EE;1F1,1F2;1F4,1F4;1F6,1F8;1FA,1FA;1FC,1FC;1FE,1FE;200,200;202,202;204,204;206,206;208,208;20A,20A;20C,20C;20E,20E;210,210;212,212;214,214;216,216;218,218;21A,21A;21C,21C;21E,21E;220,220;222,222;224,224;226,226;228,228;22A,22A;22C,22C;22E,22E;230,230;232,232;23A,23B;23D,23E;241,241;243,246;248,248;24A,24A;24C,24C;24E,24E;370,370;372,372;376,376;37F,37F;386,386;388,38A;38C,38C;38E,38F;391,3A1;3A3,3AB;3CF,3CF;3D8,3D8;3DA,3DA;3DC,3DC;3DE,3DE;3E0,3E0;3E2,3E2;3E4,3E4;3E6,3E6;3E8,3E8;3EA,3EA;3EC,3EC;3EE,3EE;3F4,3F4;3F7,3F7;3F9,3FA;3FD,42F;460,460;462,462;464,464;466,466;468,468;46A,46A;46C,46C;46E,46E;470,470;472,472;474,474;476,476;478,478;47A,47A;47C,47C;47E,47E;480,480;48A,48A;48C,48C;48E,48E;490,490;492,492;494,494;496,496;498,498;49A,49A;49C,49C;49E,49E;4A0,4A0;4A2,4A2;4A4,4A4;4A6,4A6;4A8,4A8;4AA,4AA;4AC,4AC;4AE,4AE;4B0,4B0;4B2,4B2;4B4,4B4;4B6,4B6;4B8,4B8;4BA,4BA;4BC,4BC;4BE,4BE;4C0,4C1;4C3,4C3;4C5,4C5;4C7,4C7;4C9,4C9;4CB,4CB;4CD,4CD;4D0,4D0;4D2,4D2;4D4,4D4;4D6,4D6;4D8,4D8;4DA,4DA;4DC,4DC;4DE,4DE;4E0,4E0;4E2,4E2;4E4,4E4;4E6,4E6;4E8,4E8;4EA,4EA;4EC,4EC;4EE,4EE;4F0,4F0;4F2,4F2;4F4,4F4;4F6,4F6;4F8,4F8;4FA,4FA;4FC,4FC;4FE,4FE;500,500;502,502;504,504;506,506;508,508;50A,50A;50C,50C;50E,50E;510,510;512,512;514,514;516,516;518,518;51A,51A;51C,51C;51E,51E;520,520;522,522;524,524;526,526;528,528;52A,52A;52C,52C;52E,52E;531,556;10A0,10C5;10C7,10C7;10CD,10CD;13A0,13F5;1C89,1C89;1C90,1CBA;1CBD,1CBF;1E00,1E00;1E02,1E02;1E04,1E04;1E06,1E06;1E08,1E08;1E0A,1E0A;1E0C,1E0C;1E0E,1E0E;1E10,1E10;1E12,1E12;1E14,1E14;1E16,1E16;1E18,1E18;1E1A,1E1A;1E1C,1E1C;1E1E,1E1E;1E20,1E20;1E22,1E22;1E24,1E24;1E26,1E26;1E28,1E28;1E2A,1E2A;1E2C,1E2C;1E2E,1E2E;1E30,1E30;1E32,1E32;1E34,1E34;1E36,1E36;1E38,1E38;1E3A,1E3A;1E3C,1E3C;1E3E,1E3E;1E40,1E40;1E42,1E42;1E44,1E44;1E46,1E46;1E48,1E48;1E4A,1E4A;1E4C,1E4C;1E4E,1E4E;1E50,1E50;1E52,1E52;1E54,1E54;1E56,1E56;1E58,1E58;1E5A,1E5A;1E5C,1E5C;1E5E,1E5E;1E60,1E60;1E62,1E62;1E64,1E64;1E66,1E66;1E68,1E68;1E6A,1E6A;1E6C,1E6C;1E6E,1E6E;1E70,1E70;1E72,1E72;1E74,1E74;1E76,1E76;1E78,1E78;1E7A,1E7A;1E7C,1E7C;1E7E,1E7E;1E80,1E80;1E82,1E82;1E84,1E84;1E86,1E86;1E88,1E88;1E8A,1E8A;1E8C,1E8C;1E8E,1E8E;1E90,1E90;1E92,1E92;1E94,1E94;1E9E,1E9E;1EA0,1EA0;1EA2,1EA2;1EA4,1EA4;1EA6,1EA6;1EA8,1EA8;1EAA,1EAA;1EAC,1EAC;1EAE,1EAE;1EB0,1EB0;1EB2,1EB2;1EB4,1EB4;1EB6,1EB6;1EB8,1EB8;1EBA,1EBA;1EBC,1EBC;1EBE,1EBE;1EC0,1EC0;1EC2,1EC2;1EC4,1EC4;1EC6,1EC6;1EC8,1EC8;1ECA,1ECA;1ECC,1ECC;1ECE,1ECE;1ED0,1ED0;1ED2,1ED2;1ED4,1ED4;1ED6,1ED6;1ED8,1ED8;1EDA,1EDA;1EDC,1EDC;1EDE,1EDE;1EE0,1EE0;1EE2,1EE2;1EE4,1EE4;1EE6,1EE6;1EE8,1EE8;1EEA,1EEA;1EEC,1EEC;1EEE,1EEE;1EF0,1EF0;1EF2,1EF2;1EF4,1EF4;1EF6,1EF6;1EF8,1EF8;1EFA,1EFA;1EFC,1EFC;1EFE,1EFE;1F08,1F0F;1F18,1F1D;1F28,1F2F;1F38,1F3F;1F48,1F4D;1F59,1F59;1F5B,1F5B;1F5D,1F5D;1F5F,1F5F;1F68,1F6F;1F88,1F8F;1F98,1F9F;1FA8,1FAF;1FB8,1FBC;1FC8,1FCC;1FD8,1FDB;1FE8,1FEC;1FF8,1FFC;2126,2126;212A,212B;2132,2132;2160,216F;2183,2183;24B6,24CF;2C00,2C2F;2C60,2C60;2C62,2C64;2C67,2C67;2C69,2C69;2C6B,2C6B;2C6D,2C70;2C72,2C72;2C75,2C75;2C7E,2C80;2C82,2C82;2C84,2C84;2C86,2C86;2C88,2C88;2C8A,2C8A;2C8C,2C8C;2C8E,2C8E;2C90,2C90;2C92,2C92;2C94,2C94;2C96,2C96;2C98,2C98;2C9A,2C9A;2C9C,2C9C;2C9E,2C9E;2CA0,2CA0;2CA2,2CA2;2CA4,2CA4;2CA6,2CA6;2CA8,2CA8;2CAA,2CAA;2CAC,2CAC;2CAE,2CAE;2CB0,2CB0;2CB2,2CB2;2CB4,2CB4;2CB6,2CB6;2CB8,2CB8;2CBA,2CBA;2CBC,2CBC;2CBE,2CBE;2CC0,2CC0;2CC2,2CC2;2CC4,2CC4;2CC6,2CC6;2CC8,2CC8;2CCA,2CCA;2CCC,2CCC;2CCE,2CCE;2CD0,2CD0;2CD2,2CD2;2CD4,2CD4;2CD6,2CD6;2CD8,2CD8;2CDA,2CDA;2CDC,2CDC;2CDE,2CDE;2CE0,2CE0;2CE2,2CE2;2CEB,2CEB;2CED,2CED;2CF2,2CF2;A640,A640;A642,A642;A644,A644;A646,A646;A648,A648;A64A,A64A;A64C,A64C;A64E,A64E;A650,A650;A652,A652;A654,A654;A656,A656;A658,A658;A65A,A65A;A65C,A65C;A65E,A65E;A660,A660;A662,A662;A664,A664;A666,A666;A668,A668;A66A,A66A;A66C,A66C;A680,A680;A682,A682;A684,A684;A686,A686;A688,A688;A68A,A68A;A68C,A68C;A68E,A68E;A690,A690;A692,A692;A694,A694;A696,A696;A698,A698;A69A,A69A;A722,A722;A724,A724;A726,A726;A728,A728;A72A,A72A;A72C,A72C;A72E,A72E;A732,A732;A734,A734;A736,A736;A738,A738;A73A,A73A;A73C,A73C;A73E,A73E;A740,A740;A742,A742;A744,A744;A746,A746;A748,A748;A74A,A74A;A74C,A74C;A74E,A74E;A750,A750;A752,A752;A754,A754;A756,A756;A758,A758;A75A,A75A;A75C,A75C;A75E,A75E;A760,A760;A762,A762;A764,A764;A766,A766;A768,A768;A76A,A76A;A76C,A76C;A76E,A76E;A779,A779;A77B,A77B;A77D,A77E;A780,A780;A782,A782;A784,A784;A786,A786;A78B,A78B;A78D,A78D;A790,A790;A792,A792;A796,A796;A798,A798;A79A,A79A;A79C,A79C;A79E,A79E;A7A0,A7A0;A7A2,A7A2;A7A4,A7A4;A7A6,A7A6;A7A8,A7A8;A7AA,A7AE;A7B0,A7B4;A7B6,A7B6;A7B8,A7B8;A7BA,A7BA;A7BC,A7BC;A7BE,A7BE;A7C0,A7C0;A7C2,A7C2;A7C4,A7C7;A7C9,A7C9;A7CB,A7CC;A7CE,A7CE;A7D0,A7D0;A7D2,A7D2;A7D4,A7D4;A7D6,A7D6;A7D8,A7D8;A7DA,A7DA;A7DC,A7DC;A7F5,A7F5;FF21,FF3A;10400,10427;104B0,104D3;10570,1057A;1057C,1058A;1058C,10592;10594,10595;10C80,10CB2;10D50,10D65;118A0,118BF;16E40,16E5F;16EA0,16EB8;1E900,1E921;=Changes_When_NFKC_Casefolded;41,5A;A0,A0;A8,A8;AA,AA;AD,AD;AF,AF;B2,B5;B8,BA;BC,BE;C0,D6;D8,DF;100,100;102,102;104,104;106,106;108,108;10A,10A;10C,10C;10E,10E;110,110;112,112;114,114;116,116;118,118;11A,11A;11C,11C;11E,11E;120,120;122,122;124,124;126,126;128,128;12A,12A;12C,12C;12E,12E;130,130;132,134;136,136;139,139;13B,13B;13D,13D;13F,141;143,143;145,145;147,147;149,14A;14C,14C;14E,14E;150,150;152,152;154,154;156,156;158,158;15A,15A;15C,15C;15E,15E;160,160;162,162;164,164;166,166;168,168;16A,16A;16C,16C;16E,16E;170,170;172,172;174,174;176,176;178,179;17B,17B;17D,17D;17F,17F;181,182;184,184;186,187;189,18B;18E,191;193,194;196,198;19C,19D;19F,1A0;1A2,1A2;1A4,1A4;1A6,1A7;1A9,1A9;1AC,1AC;1AE,1AF;1B1,1B3;1B5,1B5;1B7,1B8;1BC,1BC;1C4,1CD;1CF,1CF;1D1,1D1;1D3,1D3;1D5,1D5;1D7,1D7;1D9,1D9;1DB,1DB;1DE,1DE;1E0,1E0;1E2,1E2;1E4,1E4;1E6,1E6;1E8,1E8;1EA,1EA;1EC,1EC;1EE,1EE;1F1,1F4;1F6,1F8;1FA,1FA;1FC,1FC;1FE,1FE;200,200;202,202;204,204;206,206;208,208;20A,20A;20C,20C;20E,20E;210,210;212,212;214,214;216,216;218,218;21A,21A;21C,21C;21E,21E;220,220;222,222;224,224;226,226;228,228;22A,22A;22C,22C;22E,22E;230,230;232,232;23A,23B;23D,23E;241,241;243,246;248,248;24A,24A;24C,24C;24E,24E;2B0,2B8;2D8,2DD;2E0,2E4;340,341;343,345;34F,34F;370,370;372,372;374,374;376,376;37A,37A;37E,37F;384,38A;38C,38C;38E,38F;391,3A1;3A3,3AB;3C2,3C2;3CF,3D6;3D8,3D8;3DA,3DA;3DC,3DC;3DE,3DE;3E0,3E0;3E2,3E2;3E4,3E4;3E6,3E6;3E8,3E8;3EA,3EA;3EC,3EC;3EE,3EE;3F0,3F2;3F4,3F5;3F7,3F7;3F9,3FA;3FD,42F;460,460;462,462;464,464;466,466;468,468;46A,46A;46C,46C;46E,46E;470,470;472,472;474,474;476,476;478,478;47A,47A;47C,47C;47E,47E;480,480;48A,48A;48C,48C;48E,48E;490,490;492,492;494,494;496,496;498,498;49A,49A;49C,49C;49E,49E;4A0,4A0;4A2,4A2;4A4,4A4;4A6,4A6;4A8,4A8;4AA,4AA;4AC,4AC;4AE,4AE;4B0,4B0;4B2,4B2;4B4,4B4;4B6,4B6;4B8,4B8;4BA,4BA;4BC,4BC;4BE,4BE;4C0,4C1;4C3,4C3;4C5,4C5;4C7,4C7;4C9,4C9;4CB,4CB;4CD,4CD;4D0,4D0;4D2,4D2;4D4,4D4;4D6,4D6;4D8,4D8;4DA,4DA;4DC,4DC;4DE,4DE;4E0,4E0;4E2,4E2;4E4,4E4;4E6,4E6;4E8,4E8;4EA,4EA;4EC,4EC;4EE,4EE;4F0,4F0;4F2,4F2;4F4,4F4;4F6,4F6;4F8,4F8;4FA,4FA;4FC,4FC;4FE,4FE;500,500;502,502;504,504;506,506;508,508;50A,50A;50C,50C;50E,50E;510,510;512,512;514,514;516,516;518,518;51A,51A;51C,51C;51E,51E;520,520;522,522;524,524;526,526;528,528;52A,52A;52C,52C;52E,52E;531,556;587,587;61C,61C;675,678;958,95F;9DC,9DD;9DF,9DF;A33,A33;A36,A36;A59,A5B;A5E,A5E;B5C,B5D;E33,E33;EB3,EB3;EDC,EDD;F0C,F0C;F43,F43;F4D,F4D;F52,F52;F57,F57;F5C,F5C;F69,F69;F73,F73;F75,F79;F81,F81;F93,F93;F9D,F9D;FA2,FA2;FA7,FA7;FAC,FAC;FB9,FB9;10A0,10C5;10C7,10C7;10CD,10CD;10FC,10FC;115F,1160;13F8,13FD;17B4,17B5;180B,180F;1C80,1C89;1C90,1CBA;1CBD,1CBF;1D2C,1D2E;1D30,1D3A;1D3C,1D4D;1D4F,1D6A;1D78,1D78;1D9B,1DBF;1E00,1E00;1E02,1E02;1E04,1E04;1E06,1E06;1E08,1E08;1E0A,1E0A;1E0C,1E0C;1E0E,1E0E;1E10,1E10;1E12,1E12;1E14,1E14;1E16,1E16;1E18,1E18;1E1A,1E1A;1E1C,1E1C;1E1E,1E1E;1E20,1E20;1E22,1E22;1E24,1E24;1E26,1E26;1E28,1E28;1E2A,1E2A;1E2C,1E2C;1E2E,1E2E;1E30,1E30;1E32,1E32;1E34,1E34;1E36,1E36;1E38,1E38;1E3A,1E3A;1E3C,1E3C;1E3E,1E3E;1E40,1E40;1E42,1E42;1E44,1E44;1E46,1E46;1E48,1E48;1E4A,1E4A;1E4C,1E4C;1E4E,1E4E;1E50,1E50;1E52,1E52;1E54,1E54;1E56,1E56;1E58,1E58;1E5A,1E5A;1E5C,1E5C;1E5E,1E5E;1E60,1E60;1E62,1E62;1E64,1E64;1E66,1E66;1E68,1E68;1E6A,1E6A;1E6C,1E6C;1E6E,1E6E;1E70,1E70;1E72,1E72;1E74,1E74;1E76,1E76;1E78,1E78;1E7A,1E7A;1E7C,1E7C;1E7E,1E7E;1E80,1E80;1E82,1E82;1E84,1E84;1E86,1E86;1E88,1E88;1E8A,1E8A;1E8C,1E8C;1E8E,1E8E;1E90,1E90;1E92,1E92;1E94,1E94;1E9A,1E9B;1E9E,1E9E;1EA0,1EA0;1EA2,1EA2;1EA4,1EA4;1EA6,1EA6;1EA8,1EA8;1EAA,1EAA;1EAC,1EAC;1EAE,1EAE;1EB0,1EB0;1EB2,1EB2;1EB4,1EB4;1EB6,1EB6;1EB8,1EB8;1EBA,1EBA;1EBC,1EBC;1EBE,1EBE;1EC0,1EC0;1EC2,1EC2;1EC4,1EC4;1EC6,1EC6;1EC8,1EC8;1ECA,1ECA;1ECC,1ECC;1ECE,1ECE;1ED0,1ED0;1ED2,1ED2;1ED4,1ED4;1ED6,1ED6;1ED8,1ED8;1EDA,1EDA;1EDC,1EDC;1EDE,1EDE;1EE0,1EE0;1EE2,1EE2;1EE4,1EE4;1EE6,1EE6;1EE8,1EE8;1EEA,1EEA;1EEC,1EEC;1EEE,1EEE;1EF0,1EF0;1EF2,1EF2;1EF4,1EF4;1EF6,1EF6;1EF8,1EF8;1EFA,1EFA;1EFC,1EFC;1EFE,1EFE;1F08,1F0F;1F18,1F1D;1F28,1F2F;1F38,1F3F;1F48,1F4D;1F59,1F59;1F5B,1F5B;1F5D,1F5D;1F5F,1F5F;1F68,1F6F;1F71,1F71;1F73,1F73;1F75,1F75;1F77,1F77;1F79,1F79;1F7B,1F7B;1F7D,1F7D;1F80,1FAF;1FB2,1FB4;1FB7,1FC4;1FC7,1FCF;1FD3,1FD3;1FD8,1FDB;1FDD,1FDF;1FE3,1FE3;1FE8,1FEF;1FF2,1FF4;1FF7,1FFE;2000,200F;2011,2011;2017,2017;2024,2026;202A,202F;2033,2034;2036,2037;203C,203C;203E,203E;2047,2049;2057,2057;205F,2071;2074,208E;2090,209C;20A8,20A8;2100,2103;2105,2107;2109,2113;2115,2116;2119,211D;2120,2122;2124,2124;2126,2126;2128,2128;212A,212D;212F,2139;213B,2140;2145,2149;2150,217F;2183,2183;2189,2189;222C,222D;222F,2230;2329,232A;2460,24EA;2A0C,2A0C;2A74,2A76;2ADC,2ADC;2C00,2C2F;2C60,2C60;2C62,2C64;2C67,2C67;2C69,2C69;2C6B,2C6B;2C6D,2C70;2C72,2C72;2C75,2C75;2C7C,2C80;2C82,2C82;2C84,2C84;2C86,2C86;2C88,2C88;2C8A,2C8A;2C8C,2C8C;2C8E,2C8E;2C90,2C90;2C92,2C92;2C94,2C94;2C96,2C96;2C98,2C98;2C9A,2C9A;2C9C,2C9C;2C9E,2C9E;2CA0,2CA0;2CA2,2CA2;2CA4,2CA4;2CA6,2CA6;2CA8,2CA8;2CAA,2CAA;2CAC,2CAC;2CAE,2CAE;2CB0,2CB0;2CB2,2CB2;2CB4,2CB4;2CB6,2CB6;2CB8,2CB8;2CBA,2CBA;2CBC,2CBC;2CBE,2CBE;2CC0,2CC0;2CC2,2CC2;2CC4,2CC4;2CC6,2CC6;2CC8,2CC8;2CCA,2CCA;2CCC,2CCC;2CCE,2CCE;2CD0,2CD0;2CD2,2CD2;2CD4,2CD4;2CD6,2CD6;2CD8,2CD8;2CDA,2CDA;2CDC,2CDC;2CDE,2CDE;2CE0,2CE0;2CE2,2CE2;2CEB,2CEB;2CED,2CED;2CF2,2CF2;2D6F,2D6F;2E9F,2E9F;2EF3,2EF3;2F00,2FD5;3000,3000;3036,3036;3038,303A;309B,309C;309F,309F;30FF,30FF;3131,318E;3192,319F;3200,321E;3220,3247;3250,327E;3280,33FF;A640,A640;A642,A642;A644,A644;A646,A646;A648,A648;A64A,A64A;A64C,A64C;A64E,A64E;A650,A650;A652,A652;A654,A654;A656,A656;A658,A658;A65A,A65A;A65C,A65C;A65E,A65E;A660,A660;A662,A662;A664,A664;A666,A666;A668,A668;A66A,A66A;A66C,A66C;A680,A680;A682,A682;A684,A684;A686,A686;A688,A688;A68A,A68A;A68C,A68C;A68E,A68E;A690,A690;A692,A692;A694,A694;A696,A696;A698,A698;A69A,A69A;A69C,A69D;A722,A722;A724,A724;A726,A726;A728,A728;A72A,A72A;A72C,A72C;A72E,A72E;A732,A732;A734,A734;A736,A736;A738,A738;A73A,A73A;A73C,A73C;A73E,A73E;A740,A740;A742,A742;A744,A744;A746,A746;A748,A748;A74A,A74A;A74C,A74C;A74E,A74E;A750,A750;A752,A752;A754,A754;A756,A756;A758,A758;A75A,A75A;A75C,A75C;A75E,A75E;A760,A760;A762,A762;A764,A764;A766,A766;A768,A768;A76A,A76A;A76C,A76C;A76E,A76E;A770,A770;A779,A779;A77B,A77B;A77D,A77E;A780,A780;A782,A782;A784,A784;A786,A786;A78B,A78B;A78D,A78D;A790,A790;A792,A792;A796,A796;A798,A798;A79A,A79A;A79C,A79C;A79E,A79E;A7A0,A7A0;A7A2,A7A2;A7A4,A7A4;A7A6,A7A6;A7A8,A7A8;A7AA,A7AE;A7B0,A7B4;A7B6,A7B6;A7B8,A7B8;A7BA,A7BA;A7BC,A7BC;A7BE,A7BE;A7C0,A7C0;A7C2,A7C2;A7C4,A7C7;A7C9,A7C9;A7CB,A7CC;A7CE,A7CE;A7D0,A7D0;A7D2,A7D2;A7D4,A7D4;A7D6,A7D6;A7D8,A7D8;A7DA,A7DA;A7DC,A7DC;A7F1,A7F5;A7F8,A7F9;AB5C,AB5F;AB69,AB69;AB70,ABBF;F900,FA0D;FA10,FA10;FA12,FA12;FA15,FA1E;FA20,FA20;FA22,FA22;FA25,FA26;FA2A,FA6D;FA70,FAD9;FB00,FB06;FB13,FB17;FB1D,FB1D;FB1F,FB36;FB38,FB3C;FB3E,FB3E;FB40,FB41;FB43,FB44;FB46,FBB1;FBD3,FD3D;FD50,FD8F;FD92,FDC7;FDF0,FDFC;FE00,FE19;FE30,FE44;FE47,FE52;FE54,FE66;FE68,FE6B;FE70,FE72;FE74,FE74;FE76,FEFC;FEFF,FEFF;FF01,FFBE;FFC2,FFC7;FFCA,FFCF;FFD2,FFD7;FFDA,FFDC;FFE0,FFE6;FFE8,FFEE;FFF0,FFF8;10400,10427;104B0,104D3;10570,1057A;1057C,1058A;1058C,10592;10594,10595;10781,10785;10787,107B0;107B2,107BA;10C80,10CB2;10D50,10D65;118A0,118BF;16E40,16E5F;16EA0,16EB8;1BCA0,1BCA3;1CCD6,1CCF9;1D15E,1D164;1D173,1D17A;1D1BB,1D1C0;1D400,1D454;1D456,1D49C;1D49E,1D49F;1D4A2,1D4A2;1D4A5,1D4A6;1D4A9,1D4AC;1D4AE,1D4B9;1D4BB,1D4BB;1D4BD,1D4C3;1D4C5,1D505;1D507,1D50A;1D50D,1D514;1D516,1D51C;1D51E,1D539;1D53B,1D53E;1D540,1D544;1D546,1D546;1D54A,1D550;1D552,1D6A5;1D6A8,1D7CB;1D7CE,1D7FF;1E030,1E06D;1E900,1E921;1EE00,1EE03;1EE05,1EE1F;1EE21,1EE22;1EE24,1EE24;1EE27,1EE27;1EE29,1EE32;1EE34,1EE37;1EE39,1EE39;1EE3B,1EE3B;1EE42,1EE42;1EE47,1EE47;1EE49,1EE49;1EE4B,1EE4B;1EE4D,1EE4F;1EE51,1EE52;1EE54,1EE54;1EE57,1EE57;1EE59,1EE59;1EE5B,1EE5B;1EE5D,1EE5D;1EE5F,1EE5F;1EE61,1EE62;1EE64,1EE64;1EE67,1EE6A;1EE6C,1EE72;1EE74,1EE77;1EE79,1EE7C;1EE7E,1EE7E;1EE80,1EE89;1EE8B,1EE9B;1EEA1,1EEA3;1EEA5,1EEA9;1EEAB,1EEBB;1F100,1F10A;1F110,1F12E;1F130,1F14F;1F16A,1F16C;1F190,1F190;1F200,1F202;1F210,1F23B;1F240,1F248;1F250,1F251;1FBF0,1FBF9;2F800,2FA1D;E0000,E0FFF;=Changes_When_Titlecased;61,7A;B5,B5;DF,F6;F8,FF;101,101;103,103;105,105;107,107;109,109;10B,10B;10D,10D;10F,10F;111,111;113,113;115,115;117,117;119,119;11B,11B;11D,11D;11F,11F;121,121;123,123;125,125;127,127;129,129;12B,12B;12D,12D;12F,12F;131,131;133,133;135,135;137,137;13A,13A;13C,13C;13E,13E;140,140;142,142;144,144;146,146;148,149;14B,14B;14D,14D;14F,14F;151,151;153,153;155,155;157,157;159,159;15B,15B;15D,15D;15F,15F;161,161;163,163;165,165;167,167;169,169;16B,16B;16D,16D;16F,16F;171,171;173,173;175,175;177,177;17A,17A;17C,17C;17E,180;183,183;185,185;188,188;18C,18C;192,192;195,195;199,19B;19E,19E;1A1,1A1;1A3,1A3;1A5,1A5;1A8,1A8;1AD,1AD;1B0,1B0;1B4,1B4;1B6,1B6;1B9,1B9;1BD,1BD;1BF,1BF;1C4,1C4;1C6,1C7;1C9,1CA;1CC,1CC;1CE,1CE;1D0,1D0;1D2,1D2;1D4,1D4;1D6,1D6;1D8,1D8;1DA,1DA;1DC,1DD;1DF,1DF;1E1,1E1;1E3,1E3;1E5,1E5;1E7,1E7;1E9,1E9;1EB,1EB;1ED,1ED;1EF,1F1;1F3,1F3;1F5,1F5;1F9,1F9;1FB,1FB;1FD,1FD;1FF,1FF;201,201;203,203;205,205;207,207;209,209;20B,20B;20D,20D;20F,20F;211,211;213,213;215,215;217,217;219,219;21B,21B;21D,21D;21F,21F;223,223;225,225;227,227;229,229;22B,22B;22D,22D;22F,22F;231,231;233,233;23C,23C;23F,240;242,242;247,247;249,249;24B,24B;24D,24D;24F,254;256,257;259,259;25B,25C;260,261;263,266;268,26C;26F,26F;271,272;275,275;27D,27D;280,280;282,283;287,28C;292,292;29D,29E;345,345;371,371;373,373;377,377;37B,37D;390,390;3AC,3CE;3D0,3D1;3D5,3D7;3D9,3D9;3DB,3DB;3DD,3DD;3DF,3DF;3E1,3E1;3E3,3E3;3E5,3E5;3E7,3E7;3E9,3E9;3EB,3EB;3ED,3ED;3EF,3F3;3F5,3F5;3F8,3F8;3FB,3FB;430,45F;461,461;463,463;465,465;467,467;469,469;46B,46B;46D,46D;46F,46F;471,471;473,473;475,475;477,477;479,479;47B,47B;47D,47D;47F,47F;481,481;48B,48B;48D,48D;48F,48F;491,491;493,493;495,495;497,497;499,499;49B,49B;49D,49D;49F,49F;4A1,4A1;4A3,4A3;4A5,4A5;4A7,4A7;4A9,4A9;4AB,4AB;4AD,4AD;4AF,4AF;4B1,4B1;4B3,4B3;4B5,4B5;4B7,4B7;4B9,4B9;4BB,4BB;4BD,4BD;4BF,4BF;4C2,4C2;4C4,4C4;4C6,4C6;4C8,4C8;4CA,4CA;4CC,4CC;4CE,4CF;4D1,4D1;4D3,4D3;4D5,4D5;4D7,4D7;4D9,4D9;4DB,4DB;4DD,4DD;4DF,4DF;4E1,4E1;4E3,4E3;4E5,4E5;4E7,4E7;4E9,4E9;4EB,4EB;4ED,4ED;4EF,4EF;4F1,4F1;4F3,4F3;4F5,4F5;4F7,4F7;4F9,4F9;4FB,4FB;4FD,4FD;4FF,4FF;501,501;503,503;505,505;507,507;509,509;50B,50B;50D,50D;50F,50F;511,511;513,513;515,515;517,517;519,519;51B,51B;51D,51D;51F,51F;521,521;523,523;525,525;527,527;529,529;52B,52B;52D,52D;52F,52F;561,587;13F8,13FD;1C80,1C88;1C8A,1C8A;1D79,1D79;1D7D,1D7D;1D8E,1D8E;1E01,1E01;1E03,1E03;1E05,1E05;1E07,1E07;1E09,1E09;1E0B,1E0B;1E0D,1E0D;1E0F,1E0F;1E11,1E11;1E13,1E13;1E15,1E15;1E17,1E17;1E19,1E19;1E1B,1E1B;1E1D,1E1D;1E1F,1E1F;1E21,1E21;1E23,1E23;1E25,1E25;1E27,1E27;1E29,1E29;1E2B,1E2B;1E2D,1E2D;1E2F,1E2F;1E31,1E31;1E33,1E33;1E35,1E35;1E37,1E37;1E39,1E39;1E3B,1E3B;1E3D,1E3D;1E3F,1E3F;1E41,1E41;1E43,1E43;1E45,1E45;1E47,1E47;1E49,1E49;1E4B,1E4B;1E4D,1E4D;1E4F,1E4F;1E51,1E51;1E53,1E53;1E55,1E55;1E57,1E57;1E59,1E59;1E5B,1E5B;1E5D,1E5D;1E5F,1E5F;1E61,1E61;1E63,1E63;1E65,1E65;1E67,1E67;1E69,1E69;1E6B,1E6B;1E6D,1E6D;1E6F,1E6F;1E71,1E71;1E73,1E73;1E75,1E75;1E77,1E77;1E79,1E79;1E7B,1E7B;1E7D,1E7D;1E7F,1E7F;1E81,1E81;1E83,1E83;1E85,1E85;1E87,1E87;1E89,1E89;1E8B,1E8B;1E8D,1E8D;1E8F,1E8F;1E91,1E91;1E93,1E93;1E95,1E9B;1EA1,1EA1;1EA3,1EA3;1EA5,1EA5;1EA7,1EA7;1EA9,1EA9;1EAB,1EAB;1EAD,1EAD;1EAF,1EAF;1EB1,1EB1;1EB3,1EB3;1EB5,1EB5;1EB7,1EB7;1EB9,1EB9;1EBB,1EBB;1EBD,1EBD;1EBF,1EBF;1EC1,1EC1;1EC3,1EC3;1EC5,1EC5;1EC7,1EC7;1EC9,1EC9;1ECB,1ECB;1ECD,1ECD;1ECF,1ECF;1ED1,1ED1;1ED3,1ED3;1ED5,1ED5;1ED7,1ED7;1ED9,1ED9;1EDB,1EDB;1EDD,1EDD;1EDF,1EDF;1EE1,1EE1;1EE3,1EE3;1EE5,1EE5;1EE7,1EE7;1EE9,1EE9;1EEB,1EEB;1EED,1EED;1EEF,1EEF;1EF1,1EF1;1EF3,1EF3;1EF5,1EF5;1EF7,1EF7;1EF9,1EF9;1EFB,1EFB;1EFD,1EFD;1EFF,1F07;1F10,1F15;1F20,1F27;1F30,1F37;1F40,1F45;1F50,1F57;1F60,1F67;1F70,1F7D;1F80,1F87;1F90,1F97;1FA0,1FA7;1FB0,1FB4;1FB6,1FB7;1FBE,1FBE;1FC2,1FC4;1FC6,1FC7;1FD0,1FD3;1FD6,1FD7;1FE0,1FE7;1FF2,1FF4;1FF6,1FF7;214E,214E;2170,217F;2184,2184;24D0,24E9;2C30,2C5F;2C61,2C61;2C65,2C66;2C68,2C68;2C6A,2C6A;2C6C,2C6C;2C73,2C73;2C76,2C76;2C81,2C81;2C83,2C83;2C85,2C85;2C87,2C87;2C89,2C89;2C8B,2C8B;2C8D,2C8D;2C8F,2C8F;2C91,2C91;2C93,2C93;2C95,2C95;2C97,2C97;2C99,2C99;2C9B,2C9B;2C9D,2C9D;2C9F,2C9F;2CA1,2CA1;2CA3,2CA3;2CA5,2CA5;2CA7,2CA7;2CA9,2CA9;2CAB,2CAB;2CAD,2CAD;2CAF,2CAF;2CB1,2CB1;2CB3,2CB3;2CB5,2CB5;2CB7,2CB7;2CB9,2CB9;2CBB,2CBB;2CBD,2CBD;2CBF,2CBF;2CC1,2CC1;2CC3,2CC3;2CC5,2CC5;2CC7,2CC7;2CC9,2CC9;2CCB,2CCB;2CCD,2CCD;2CCF,2CCF;2CD1,2CD1;2CD3,2CD3;2CD5,2CD5;2CD7,2CD7;2CD9,2CD9;2CDB,2CDB;2CDD,2CDD;2CDF,2CDF;2CE1,2CE1;2CE3,2CE3;2CEC,2CEC;2CEE,2CEE;2CF3,2CF3;2D00,2D25;2D27,2D27;2D2D,2D2D;A641,A641;A643,A643;A645,A645;A647,A647;A649,A649;A64B,A64B;A64D,A64D;A64F,A64F;A651,A651;A653,A653;A655,A655;A657,A657;A659,A659;A65B,A65B;A65D,A65D;A65F,A65F;A661,A661;A663,A663;A665,A665;A667,A667;A669,A669;A66B,A66B;A66D,A66D;A681,A681;A683,A683;A685,A685;A687,A687;A689,A689;A68B,A68B;A68D,A68D;A68F,A68F;A691,A691;A693,A693;A695,A695;A697,A697;A699,A699;A69B,A69B;A723,A723;A725,A725;A727,A727;A729,A729;A72B,A72B;A72D,A72D;A72F,A72F;A733,A733;A735,A735;A737,A737;A739,A739;A73B,A73B;A73D,A73D;A73F,A73F;A741,A741;A743,A743;A745,A745;A747,A747;A749,A749;A74B,A74B;A74D,A74D;A74F,A74F;A751,A751;A753,A753;A755,A755;A757,A757;A759,A759;A75B,A75B;A75D,A75D;A75F,A75F;A761,A761;A763,A763;A765,A765;A767,A767;A769,A769;A76B,A76B;A76D,A76D;A76F,A76F;A77A,A77A;A77C,A77C;A77F,A77F;A781,A781;A783,A783;A785,A785;A787,A787;A78C,A78C;A791,A791;A793,A794;A797,A797;A799,A799;A79B,A79B;A79D,A79D;A79F,A79F;A7A1,A7A1;A7A3,A7A3;A7A5,A7A5;A7A7,A7A7;A7A9,A7A9;A7B5,A7B5;A7B7,A7B7;A7B9,A7B9;A7BB,A7BB;A7BD,A7BD;A7BF,A7BF;A7C1,A7C1;A7C3,A7C3;A7C8,A7C8;A7CA,A7CA;A7CD,A7CD;A7CF,A7CF;A7D1,A7D1;A7D3,A7D3;A7D5,A7D5;A7D7,A7D7;A7D9,A7D9;A7DB,A7DB;A7F6,A7F6;AB53,AB53;AB70,ABBF;FB00,FB06;FB13,FB17;FF41,FF5A;10428,1044F;104D8,104FB;10597,105A1;105A3,105B1;105B3,105B9;105BB,105BC;10CC0,10CF2;10D70,10D85;118C0,118DF;16E60,16E7F;16EBB,16ED3;1E922,1E943;=Changes_When_Uppercased;61,7A;B5,B5;DF,F6;F8,FF;101,101;103,103;105,105;107,107;109,109;10B,10B;10D,10D;10F,10F;111,111;113,113;115,115;117,117;119,119;11B,11B;11D,11D;11F,11F;121,121;123,123;125,125;127,127;129,129;12B,12B;12D,12D;12F,12F;131,131;133,133;135,135;137,137;13A,13A;13C,13C;13E,13E;140,140;142,142;144,144;146,146;148,149;14B,14B;14D,14D;14F,14F;151,151;153,153;155,155;157,157;159,159;15B,15B;15D,15D;15F,15F;161,161;163,163;165,165;167,167;169,169;16B,16B;16D,16D;16F,16F;171,171;173,173;175,175;177,177;17A,17A;17C,17C;17E,180;183,183;185,185;188,188;18C,18C;192,192;195,195;199,19B;19E,19E;1A1,1A1;1A3,1A3;1A5,1A5;1A8,1A8;1AD,1AD;1B0,1B0;1B4,1B4;1B6,1B6;1B9,1B9;1BD,1BD;1BF,1BF;1C5,1C6;1C8,1C9;1CB,1CC;1CE,1CE;1D0,1D0;1D2,1D2;1D4,1D4;1D6,1D6;1D8,1D8;1DA,1DA;1DC,1DD;1DF,1DF;1E1,1E1;1E3,1E3;1E5,1E5;1E7,1E7;1E9,1E9;1EB,1EB;1ED,1ED;1EF,1F0;1F2,1F3;1F5,1F5;1F9,1F9;1FB,1FB;1FD,1FD;1FF,1FF;201,201;203,203;205,205;207,207;209,209;20B,20B;20D,20D;20F,20F;211,211;213,213;215,215;217,217;219,219;21B,21B;21D,21D;21F,21F;223,223;225,225;227,227;229,229;22B,22B;22D,22D;22F,22F;231,231;233,233;23C,23C;23F,240;242,242;247,247;249,249;24B,24B;24D,24D;24F,254;256,257;259,259;25B,25C;260,261;263,266;268,26C;26F,26F;271,272;275,275;27D,27D;280,280;282,283;287,28C;292,292;29D,29E;345,345;371,371;373,373;377,377;37B,37D;390,390;3AC,3CE;3D0,3D1;3D5,3D7;3D9,3D9;3DB,3DB;3DD,3DD;3DF,3DF;3E1,3E1;3E3,3E3;3E5,3E5;3E7,3E7;3E9,3E9;3EB,3EB;3ED,3ED;3EF,3F3;3F5,3F5;3F8,3F8;3FB,3FB;430,45F;461,461;463,463;465,465;467,467;469,469;46B,46B;46D,46D;46F,46F;471,471;473,473;475,475;477,477;479,479;47B,47B;47D,47D;47F,47F;481,481;48B,48B;48D,48D;48F,48F;491,491;493,493;495,495;497,497;499,499;49B,49B;49D,49D;49F,49F;4A1,4A1;4A3,4A3;4A5,4A5;4A7,4A7;4A9,4A9;4AB,4AB;4AD,4AD;4AF,4AF;4B1,4B1;4B3,4B3;4B5,4B5;4B7,4B7;4B9,4B9;4BB,4BB;4BD,4BD;4BF,4BF;4C2,4C2;4C4,4C4;4C6,4C6;4C8,4C8;4CA,4CA;4CC,4CC;4CE,4CF;4D1,4D1;4D3,4D3;4D5,4D5;4D7,4D7;4D9,4D9;4DB,4DB;4DD,4DD;4DF,4DF;4E1,4E1;4E3,4E3;4E5,4E5;4E7,4E7;4E9,4E9;4EB,4EB;4ED,4ED;4EF,4EF;4F1,4F1;4F3,4F3;4F5,4F5;4F7,4F7;4F9,4F9;4FB,4FB;4FD,4FD;4FF,4FF;501,501;503,503;505,505;507,507;509,509;50B,50B;50D,50D;50F,50F;511,511;513,513;515,515;517,517;519,519;51B,51B;51D,51D;51F,51F;521,521;523,523;525,525;527,527;529,529;52B,52B;52D,52D;52F,52F;561,587;10D0,10FA;10FD,10FF;13F8,13FD;1C80,1C88;1C8A,1C8A;1D79,1D79;1D7D,1D7D;1D8E,1D8E;1E01,1E01;1E03,1E03;1E05,1E05;1E07,1E07;1E09,1E09;1E0B,1E0B;1E0D,1E0D;1E0F,1E0F;1E11,1E11;1E13,1E13;1E15,1E15;1E17,1E17;1E19,1E19;1E1B,1E1B;1E1D,1E1D;1E1F,1E1F;1E21,1E21;1E23,1E23;1E25,1E25;1E27,1E27;1E29,1E29;1E2B,1E2B;1E2D,1E2D;1E2F,1E2F;1E31,1E31;1E33,1E33;1E35,1E35;1E37,1E37;1E39,1E39;1E3B,1E3B;1E3D,1E3D;1E3F,1E3F;1E41,1E41;1E43,1E43;1E45,1E45;1E47,1E47;1E49,1E49;1E4B,1E4B;1E4D,1E4D;1E4F,1E4F;1E51,1E51;1E53,1E53;1E55,1E55;1E57,1E57;1E59,1E59;1E5B,1E5B;1E5D,1E5D;1E5F,1E5F;1E61,1E61;1E63,1E63;1E65,1E65;1E67,1E67;1E69,1E69;1E6B,1E6B;1E6D,1E6D;1E6F,1E6F;1E71,1E71;1E73,1E73;1E75,1E75;1E77,1E77;1E79,1E79;1E7B,1E7B;1E7D,1E7D;1E7F,1E7F;1E81,1E81;1E83,1E83;1E85,1E85;1E87,1E87;1E89,1E89;1E8B,1E8B;1E8D,1E8D;1E8F,1E8F;1E91,1E91;1E93,1E93;1E95,1E9B;1EA1,1EA1;1EA3,1EA3;1EA5,1EA5;1EA7,1EA7;1EA9,1EA9;1EAB,1EAB;1EAD,1EAD;1EAF,1EAF;1EB1,1EB1;1EB3,1EB3;1EB5,1EB5;1EB7,1EB7;1EB9,1EB9;1EBB,1EBB;1EBD,1EBD;1EBF,1EBF;1EC1,1EC1;1EC3,1EC3;1EC5,1EC5;1EC7,1EC7;1EC9,1EC9;1ECB,1ECB;1ECD,1ECD;1ECF,1ECF;1ED1,1ED1;1ED3,1ED3;1ED5,1ED5;1ED7,1ED7;1ED9,1ED9;1EDB,1EDB;1EDD,1EDD;1EDF,1EDF;1EE1,1EE1;1EE3,1EE3;1EE5,1EE5;1EE7,1EE7;1EE9,1EE9;1EEB,1EEB;1EED,1EED;1EEF,1EEF;1EF1,1EF1;1EF3,1EF3;1EF5,1EF5;1EF7,1EF7;1EF9,1EF9;1EFB,1EFB;1EFD,1EFD;1EFF,1F07;1F10,1F15;1F20,1F27;1F30,1F37;1F40,1F45;1F50,1F57;1F60,1F67;1F70,1F7D;1F80,1FB4;1FB6,1FB7;1FBC,1FBC;1FBE,1FBE;1FC2,1FC4;1FC6,1FC7;1FCC,1FCC;1FD0,1FD3;1FD6,1FD7;1FE0,1FE7;1FF2,1FF4;1FF6,1FF7;1FFC,1FFC;214E,214E;2170,217F;2184,2184;24D0,24E9;2C30,2C5F;2C61,2C61;2C65,2C66;2C68,2C68;2C6A,2C6A;2C6C,2C6C;2C73,2C73;2C76,2C76;2C81,2C81;2C83,2C83;2C85,2C85;2C87,2C87;2C89,2C89;2C8B,2C8B;2C8D,2C8D;2C8F,2C8F;2C91,2C91;2C93,2C93;2C95,2C95;2C97,2C97;2C99,2C99;2C9B,2C9B;2C9D,2C9D;2C9F,2C9F;2CA1,2CA1;2CA3,2CA3;2CA5,2CA5;2CA7,2CA7;2CA9,2CA9;2CAB,2CAB;2CAD,2CAD;2CAF,2CAF;2CB1,2CB1;2CB3,2CB3;2CB5,2CB5;2CB7,2CB7;2CB9,2CB9;2CBB,2CBB;2CBD,2CBD;2CBF,2CBF;2CC1,2CC1;2CC3,2CC3;2CC5,2CC5;2CC7,2CC7;2CC9,2CC9;2CCB,2CCB;2CCD,2CCD;2CCF,2CCF;2CD1,2CD1;2CD3,2CD3;2CD5,2CD5;2CD7,2CD7;2CD9,2CD9;2CDB,2CDB;2CDD,2CDD;2CDF,2CDF;2CE1,2CE1;2CE3,2CE3;2CEC,2CEC;2CEE,2CEE;2CF3,2CF3;2D00,2D25;2D27,2D27;2D2D,2D2D;A641,A641;A643,A643;A645,A645;A647,A647;A649,A649;A64B,A64B;A64D,A64D;A64F,A64F;A651,A651;A653,A653;A655,A655;A657,A657;A659,A659;A65B,A65B;A65D,A65D;A65F,A65F;A661,A661;A663,A663;A665,A665;A667,A667;A669,A669;A66B,A66B;A66D,A66D;A681,A681;A683,A683;A685,A685;A687,A687;A689,A689;A68B,A68B;A68D,A68D;A68F,A68F;A691,A691;A693,A693;A695,A695;A697,A697;A699,A699;A69B,A69B;A723,A723;A725,A725;A727,A727;A729,A729;A72B,A72B;A72D,A72D;A72F,A72F;A733,A733;A735,A735;A737,A737;A739,A739;A73B,A73B;A73D,A73D;A73F,A73F;A741,A741;A743,A743;A745,A745;A747,A747;A749,A749;A74B,A74B;A74D,A74D;A74F,A74F;A751,A751;A753,A753;A755,A755;A757,A757;A759,A759;A75B,A75B;A75D,A75D;A75F,A75F;A761,A761;A763,A763;A765,A765;A767,A767;A769,A769;A76B,A76B;A76D,A76D;A76F,A76F;A77A,A77A;A77C,A77C;A77F,A77F;A781,A781;A783,A783;A785,A785;A787,A787;A78C,A78C;A791,A791;A793,A794;A797,A797;A799,A799;A79B,A79B;A79D,A79D;A79F,A79F;A7A1,A7A1;A7A3,A7A3;A7A5,A7A5;A7A7,A7A7;A7A9,A7A9;A7B5,A7B5;A7B7,A7B7;A7B9,A7B9;A7BB,A7BB;A7BD,A7BD;A7BF,A7BF;A7C1,A7C1;A7C3,A7C3;A7C8,A7C8;A7CA,A7CA;A7CD,A7CD;A7CF,A7CF;A7D1,A7D1;A7D3,A7D3;A7D5,A7D5;A7D7,A7D7;A7D9,A7D9;A7DB,A7DB;A7F6,A7F6;AB53,AB53;AB70,ABBF;FB00,FB06;FB13,FB17;FF41,FF5A;10428,1044F;104D8,104FB;10597,105A1;105A3,105B1;105B3,105B9;105BB,105BC;10CC0,10CF2;10D70,10D85;118C0,118DF;16E60,16E7F;16EBB,16ED3;1E922,1E943;=Dash;2D,2D;58A,58A;5BE,5BE;1400,1400;1806,1806;2010,2015;2053,2053;207B,207B;208B,208B;2212,2212;2E17,2E17;2E1A,2E1A;2E3A,2E3B;2E40,2E40;2E5D,2E5D;301C,301C;3030,3030;30A0,30A0;FE31,FE32;FE58,FE58;FE63,FE63;FF0D,FF0D;10D6E,10D6E;10EAD,10EAD;=Default_Ignorable_Code_Point;AD,AD;34F,34F;61C,61C;115F,1160;17B4,17B5;180B,180F;200B,200F;202A,202E;2060,206F;3164,3164;FE00,FE0F;FEFF,FEFF;FFA0,FFA0;FFF0,FFF8;1BCA0,1BCA3;1D173,1D17A;E0000,E0FFF;=Deprecated;149,149;673,673;F77,F77;F79,F79;17A3,17A4;206A,206F;2329,232A;E0001,E0001;=Diacritic;5E,5E;60,60;A8,A8;AF,AF;B4,B4;B7,B8;2B0,34E;350,357;35D,362;374,375;37A,37A;384,385;483,487;559,559;591,5BD;5BF,5BF;5C1,5C2;5C4,5C5;5C7,5C7;64B,652;657,658;6DF,6E0;6E5,6E6;6EA,6EC;730,74A;7A6,7B0;7EB,7F5;818,819;898,89F;8C9,8D2;8E3,8FE;93C,93C;94D,94D;951,954;971,971;9BC,9BC;9CD,9CD;A3C,A3C;A4D,A4D;ABC,ABC;ACD,ACD;AFD,AFF;B3C,B3C;B4D,B4D;B55,B55;BCD,BCD;C3C,C3C;C4D,C4D;CBC,CBC;CCD,CCD;D3B,D3C;D4D,D4D;DCA,DCA;E3A,E3A;E47,E4C;E4E,E4E;EBA,EBA;EC8,ECC;F18,F19;F35,F35;F37,F37;F39,F39;F3E,F3F;F82,F84;F86,F87;FC6,FC6;1037,1037;1039,103A;1063,1064;1069,106D;1087,108D;108F,108F;109A,109B;135D,135F;1714,1715;1734,1734;17C9,17D3;17DD,17DD;1939,193B;1A60,1A60;1A75,1A7C;1A7F,1A7F;1AB0,1ABE;1AC1,1ACB;1ACF,1ADD;1AE0,1AEB;1B34,1B34;1B44,1B44;1B6B,1B73;1BAA,1BAB;1BE6,1BE6;1BF2,1BF3;1C36,1C37;1C78,1C7D;1CD0,1CE8;1CED,1CED;1CF4,1CF4;1CF7,1CF9;1D2C,1D6A;1D9B,1DBE;1DC4,1DCF;1DF5,1DFF;1FBD,1FBD;1FBF,1FC1;1FCD,1FCF;1FDD,1FDF;1FED,1FEF;1FFD,1FFE;2CEF,2CF1;2E2F,2E2F;302A,302F;3099,309C;30FC,30FC;A66F,A66F;A67C,A67D;A67F,A67F;A69C,A69D;A6F0,A6F1;A700,A721;A788,A78A;A7F1,A7F1;A7F8,A7F9;A806,A806;A82C,A82C;A8C4,A8C4;A8E0,A8F1;A92B,A92E;A953,A953;A9B3,A9B3;A9C0,A9C0;A9E5,A9E5;AA7B,AA7D;AABF,AAC2;AAF6,AAF6;AB5B,AB5F;AB69,AB6B;ABEC,ABED;FB1E,FB1E;FE20,FE2F;FF3E,FF3E;FF40,FF40;FF70,FF70;FF9E,FF9F;FFE3,FFE3;102E0,102E0;10780,10785;10787,107B0;107B2,107BA;10A38,10A3A;10A3F,10A3F;10AE5,10AE6;10D22,10D27;10D4E,10D4E;10D69,10D6D;10EFA,10EFA;10EFD,10EFF;10F46,10F50;10F82,10F85;11046,11046;11070,11070;110B9,110BA;11133,11134;11173,11173;111C0,111C0;111CA,111CC;11235,11236;112E9,112EA;1133B,1133C;1134D,1134D;11366,1136C;11370,11374;113CE,113D0;113D2,113D3;113E1,113E2;11442,11442;11446,11446;114C2,114C3;115BF,115C0;1163F,1163F;116B6,116B7;1172B,1172B;11839,1183A;1193D,1193E;11943,11943;119E0,119E0;11A34,11A34;11A47,11A47;11A99,11A99;11C3F,11C3F;11D42,11D42;11D44,11D45;11D97,11D97;11DD9,11DD9;11F41,11F42;11F5A,11F5A;13447,13455;1612F,1612F;16AF0,16AF4;16B30,16B36;16D6B,16D6C;16F8F,16F9F;16FF0,16FF1;1AFF0,1AFF3;1AFF5,1AFFB;1AFFD,1AFFE;1CF00,1CF2D;1CF30,1CF46;1D167,1D169;1D16D,1D172;1D17B,1D182;1D185,1D18B;1D1AA,1D1AD;1E030,1E06D;1E130,1E136;1E2AE,1E2AE;1E2EC,1E2EF;1E5EE,1E5EF;1E8D0,1E8D6;1E944,1E946;1E948,1E94A;=Emoji;23,23;2A,2A;30,39;A9,A9;AE,AE;203C,203C;2049,2049;2122,2122;2139,2139;2194,2199;21A9,21AA;231A,231B;2328,2328;23CF,23CF;23E9,23F3;23F8,23FA;24C2,24C2;25AA,25AB;25B6,25B6;25C0,25C0;25FB,25FE;2600,2604;260E,260E;2611,2611;2614,2615;2618,2618;261D,261D;2620,2620;2622,2623;2626,2626;262A,262A;262E,262F;2638,263A;2640,2640;2642,2642;2648,2653;265F,2660;2663,2663;2665,2666;2668,2668;267B,267B;267E,267F;2692,2697;2699,2699;269B,269C;26A0,26A1;26A7,26A7;26AA,26AB;26B0,26B1;26BD,26BE;26C4,26C5;26C8,26C8;26CE,26CF;26D1,26D1;26D3,26D4;26E9,26EA;26F0,26F5;26F7,26FA;26FD,26FD;2702,2702;2705,2705;2708,270D;270F,270F;2712,2712;2714,2714;2716,2716;271D,271D;2721,2721;2728,2728;2733,2734;2744,2744;2747,2747;274C,274C;274E,274E;2753,2755;2757,2757;2763,2764;2795,2797;27A1,27A1;27B0,27B0;27BF,27BF;2934,2935;2B05,2B07;2B1B,2B1C;2B50,2B50;2B55,2B55;3030,3030;303D,303D;3297,3297;3299,3299;1F004,1F004;1F0CF,1F0CF;1F170,1F171;1F17E,1F17F;1F18E,1F18E;1F191,1F19A;1F1E6,1F1FF;1F201,1F202;1F21A,1F21A;1F22F,1F22F;1F232,1F23A;1F250,1F251;1F300,1F321;1F324,1F393;1F396,1F397;1F399,1F39B;1F39E,1F3F0;1F3F3,1F3F5;1F3F7,1F4FD;1F4FF,1F53D;1F549,1F54E;1F550,1F567;1F56F,1F570;1F573,1F57A;1F587,1F587;1F58A,1F58D;1F590,1F590;1F595,1F596;1F5A4,1F5A5;1F5A8,1F5A8;1F5B1,1F5B2;1F5BC,1F5BC;1F5C2,1F5C4;1F5D1,1F5D3;1F5DC,1F5DE;1F5E1,1F5E1;1F5E3,1F5E3;1F5E8,1F5E8;1F5EF,1F5EF;1F5F3,1F5F3;1F5FA,1F64F;1F680,1F6C5;1F6CB,1F6D2;1F6D5,1F6D8;1F6DC,1F6E5;1F6E9,1F6E9;1F6EB,1F6EC;1F6F0,1F6F0;1F6F3,1F6FC;1F7E0,1F7EB;1F7F0,1F7F0;1F90C,1F93A;1F93C,1F945;1F947,1F9FF;1FA70,1FA7C;1FA80,1FA8A;1FA8E,1FAC6;1FAC8,1FAC8;1FACD,1FADC;1FADF,1FAEA;1FAEF,1FAF8;=Emoji_Component;23,23;2A,2A;30,39;200D,200D;20E3,20E3;FE0F,FE0F;1F1E6,1F1FF;1F3FB,1F3FF;1F9B0,1F9B3;E0020,E007F;=Emoji_Modifier;1F3FB,1F3FF;=Emoji_Modifier_Base;261D,261D;26F9,26F9;270A,270D;1F385,1F385;1F3C2,1F3C4;1F3C7,1F3C7;1F3CA,1F3CC;1F442,1F443;1F446,1F450;1F466,1F478;1F47C,1F47C;1F481,1F483;1F485,1F487;1F48F,1F48F;1F491,1F491;1F4AA,1F4AA;1F574,1F575;1F57A,1F57A;1F590,1F590;1F595,1F596;1F645,1F647;1F64B,1F64F;1F6A3,1F6A3;1F6B4,1F6B6;1F6C0,1F6C0;1F6CC,1F6CC;1F90C,1F90C;1F90F,1F90F;1F918,1F91F;1F926,1F926;1F930,1F939;1F93C,1F93E;1F977,1F977;1F9B5,1F9B6;1F9B8,1F9B9;1F9BB,1F9BB;1F9CD,1F9CF;1F9D1,1F9DD;1FAC3,1FAC5;1FAF0,1FAF8;=Emoji_Presentation;231A,231B;23E9,23EC;23F0,23F0;23F3,23F3;25FD,25FE;2614,2615;2648,2653;267F,267F;2693,2693;26A1,26A1;26AA,26AB;26BD,26BE;26C4,26C5;26CE,26CE;26D4,26D4;26EA,26EA;26F2,26F3;26F5,26F5;26FA,26FA;26FD,26FD;2705,2705;270A,270B;2728,2728;274C,274C;274E,274E;2753,2755;2757,2757;2795,2797;27B0,27B0;27BF,27BF;2B1B,2B1C;2B50,2B50;2B55,2B55;1F004,1F004;1F0CF,1F0CF;1F18E,1F18E;1F191,1F19A;1F1E6,1F1FF;1F201,1F201;1F21A,1F21A;1F22F,1F22F;1F232,1F236;1F238,1F23A;1F250,1F251;1F300,1F320;1F32D,1F335;1F337,1F37C;1F37E,1F393;1F3A0,1F3CA;1F3CF,1F3D3;1F3E0,1F3F0;1F3F4,1F3F4;1F3F8,1F43E;1F440,1F440;1F442,1F4FC;1F4FF,1F53D;1F54B,1F54E;1F550,1F567;1F57A,1F57A;1F595,1F596;1F5A4,1F5A4;1F5FB,1F64F;1F680,1F6C5;1F6CC,1F6CC;1F6D0,1F6D2;1F6D5,1F6D8;1F6DC,1F6DF;1F6EB,1F6EC;1F6F4,1F6FC;1F7E0,1F7EB;1F7F0,1F7F0;1F90C,1F93A;1F93C,1F945;1F947,1F9FF;1FA70,1FA7C;1FA80,1FA8A;1FA8E,1FAC6;1FAC8,1FAC8;1FACD,1FADC;1FADF,1FAEA;1FAEF,1FAF8;=Extended_Pictographic;A9,A9;AE,AE;203C,203C;2049,2049;2122,2122;2139,2139;2194,2199;21A9,21AA;231A,231B;2328,2328;23CF,23CF;23E9,23F3;23F8,23FA;24C2,24C2;25AA,25AB;25B6,25B6;25C0,25C0;25FB,25FE;2600,2604;260E,260E;2611,2611;2614,2615;2618,2618;261D,261D;2620,2620;2622,2623;2626,2626;262A,262A;262E,262F;2638,263A;2640,2640;2642,2642;2648,2653;265F,2660;2663,2663;2665,2666;2668,2668;267B,267B;267E,267F;2692,2697;2699,2699;269B,269C;26A0,26A1;26A7,26A7;26AA,26AB;26B0,26B1;26BD,26BE;26C4,26C5;26C8,26C8;26CE,26CF;26D1,26D1;26D3,26D4;26E9,26EA;26F0,26F5;26F7,26FA;26FD,26FD;2702,2702;2705,2705;2708,270D;270F,270F;2712,2712;2714,2714;2716,2716;271D,271D;2721,2721;2728,2728;2733,2734;2744,2744;2747,2747;274C,274C;274E,274E;2753,2755;2757,2757;2763,2764;2795,2797;27A1,27A1;27B0,27B0;27BF,27BF;2934,2935;2B05,2B07;2B1B,2B1C;2B50,2B50;2B55,2B55;3030,3030;303D,303D;3297,3297;3299,3299;1F004,1F004;1F02C,1F02F;1F094,1F09F;1F0AF,1F0B0;1F0C0,1F0C0;1F0CF,1F0D0;1F0F6,1F0FF;1F170,1F171;1F17E,1F17F;1F18E,1F18E;1F191,1F19A;1F1AE,1F1E5;1F201,1F20F;1F21A,1F21A;1F22F,1F22F;1F232,1F23A;1F23C,1F23F;1F249,1F25F;1F266,1F321;1F324,1F393;1F396,1F397;1F399,1F39B;1F39E,1F3F0;1F3F3,1F3F5;1F3F7,1F3FA;1F400,1F4FD;1F4FF,1F53D;1F549,1F54E;1F550,1F567;1F56F,1F570;1F573,1F57A;1F587,1F587;1F58A,1F58D;1F590,1F590;1F595,1F596;1F5A4,1F5A5;1F5A8,1F5A8;1F5B1,1F5B2;1F5BC,1F5BC;1F5C2,1F5C4;1F5D1,1F5D3;1F5DC,1F5DE;1F5E1,1F5E1;1F5E3,1F5E3;1F5E8,1F5E8;1F5EF,1F5EF;1F5F3,1F5F3;1F5FA,1F64F;1F680,1F6C5;1F6CB,1F6D2;1F6D5,1F6E5;1F6E9,1F6E9;1F6EB,1F6F0;1F6F3,1F6FF;1F7DA,1F7FF;1F80C,1F80F;1F848,1F84F;1F85A,1F85F;1F888,1F88F;1F8AE,1F8AF;1F8BC,1F8BF;1F8C2,1F8CF;1F8D9,1F8FF;1F90C,1F93A;1F93C,1F945;1F947,1F9FF;1FA58,1FA5F;1FA6E,1FAFF;1FC00,1FFFD;=Extender;B7,B7;2D0,2D1;640,640;7FA,7FA;A71,A71;AFB,AFB;B55,B55;E46,E46;EC6,EC6;180A,180A;1843,1843;1AA7,1AA7;1C36,1C36;1C7B,1C7B;3005,3005;3031,3035;309D,309E;30FC,30FE;A015,A015;A60C,A60C;A9CF,A9CF;A9E6,A9E6;AA70,AA70;AADD,AADD;AAF3,AAF4;FF70,FF70;10781,10782;10D4E,10D4E;10D6A,10D6A;10D6F,10D6F;11237,11237;1135D,1135D;113D2,113D3;115C6,115C8;11A98,11A98;11DD9,11DD9;16B42,16B43;16FE0,16FE1;16FE3,16FE3;16FF2,16FF3;1E13C,1E13D;1E5EF,1E5EF;1E944,1E946;=Grapheme_Base;20,7E;A0,AC;AE,2FF;370,377;37A,37F;384,38A;38C,38C;38E,3A1;3A3,482;48A,52F;531,556;559,58A;58D,58F;5BE,5BE;5C0,5C0;5C3,5C3;5C6,5C6;5D0,5EA;5EF,5F4;606,60F;61B,61B;61D,64A;660,66F;671,6D5;6DE,6DE;6E5,6E6;6E9,6E9;6EE,70D;710,710;712,72F;74D,7A5;7B1,7B1;7C0,7EA;7F4,7FA;7FE,815;81A,81A;824,824;828,828;830,83E;840,858;85E,85E;860,86A;870,88F;8A0,8C9;903,939;93B,93B;93D,940;949,94C;94E,950;958,961;964,980;982,983;985,98C;98F,990;993,9A8;9AA,9B0;9B2,9B2;9B6,9B9;9BD,9BD;9BF,9C0;9C7,9C8;9CB,9CC;9CE,9CE;9DC,9DD;9DF,9E1;9E6,9FD;A03,A03;A05,A0A;A0F,A10;A13,A28;A2A,A30;A32,A33;A35,A36;A38,A39;A3E,A40;A59,A5C;A5E,A5E;A66,A6F;A72,A74;A76,A76;A83,A83;A85,A8D;A8F,A91;A93,AA8;AAA,AB0;AB2,AB3;AB5,AB9;ABD,AC0;AC9,AC9;ACB,ACC;AD0,AD0;AE0,AE1;AE6,AF1;AF9,AF9;B02,B03;B05,B0C;B0F,B10;B13,B28;B2A,B30;B32,B33;B35,B39;B3D,B3D;B40,B40;B47,B48;B4B,B4C;B5C,B5D;B5F,B61;B66,B77;B83,B83;B85,B8A;B8E,B90;B92,B95;B99,B9A;B9C,B9C;B9E,B9F;BA3,BA4;BA8,BAA;BAE,BB9;BBF,BBF;BC1,BC2;BC6,BC8;BCA,BCC;BD0,BD0;BE6,BFA;C01,C03;C05,C0C;C0E,C10;C12,C28;C2A,C39;C3D,C3D;C41,C44;C58,C5A;C5C,C5D;C60,C61;C66,C6F;C77,C80;C82,C8C;C8E,C90;C92,CA8;CAA,CB3;CB5,CB9;CBD,CBE;CC1,CC1;CC3,CC4;CDC,CDE;CE0,CE1;CE6,CEF;CF1,CF3;D02,D0C;D0E,D10;D12,D3A;D3D,D3D;D3F,D40;D46,D48;D4A,D4C;D4E,D4F;D54,D56;D58,D61;D66,D7F;D82,D83;D85,D96;D9A,DB1;DB3,DBB;DBD,DBD;DC0,DC6;DD0,DD1;DD8,DDE;DE6,DEF;DF2,DF4;E01,E30;E32,E33;E3F,E46;E4F,E5B;E81,E82;E84,E84;E86,E8A;E8C,EA3;EA5,EA5;EA7,EB0;EB2,EB3;EBD,EBD;EC0,EC4;EC6,EC6;ED0,ED9;EDC,EDF;F00,F17;F1A,F34;F36,F36;F38,F38;F3A,F47;F49,F6C;F7F,F7F;F85,F85;F88,F8C;FBE,FC5;FC7,FCC;FCE,FDA;1000,102C;1031,1031;1038,1038;103B,103C;103F,1057;105A,105D;1061,1070;1075,1081;1083,1084;1087,108C;108E,109C;109E,10C5;10C7,10C7;10CD,10CD;10D0,1248;124A,124D;1250,1256;1258,1258;125A,125D;1260,1288;128A,128D;1290,12B0;12B2,12B5;12B8,12BE;12C0,12C0;12C2,12C5;12C8,12D6;12D8,1310;1312,1315;1318,135A;1360,137C;1380,1399;13A0,13F5;13F8,13FD;1400,169C;16A0,16F8;1700,1711;171F,1731;1735,1736;1740,1751;1760,176C;176E,1770;1780,17B3;17B6,17B6;17BE,17C5;17C7,17C8;17D4,17DC;17E0,17E9;17F0,17F9;1800,180A;1810,1819;1820,1878;1880,1884;1887,18A8;18AA,18AA;18B0,18F5;1900,191E;1923,1926;1929,192B;1930,1931;1933,1938;1940,1940;1944,196D;1970,1974;1980,19AB;19B0,19C9;19D0,19DA;19DE,1A16;1A19,1A1A;1A1E,1A55;1A57,1A57;1A61,1A61;1A63,1A64;1A6D,1A72;1A80,1A89;1A90,1A99;1AA0,1AAD;1B04,1B33;1B3E,1B41;1B45,1B4C;1B4E,1B6A;1B74,1B7F;1B82,1BA1;1BA6,1BA7;1BAE,1BE5;1BE7,1BE7;1BEA,1BEC;1BEE,1BEE;1BFC,1C2B;1C34,1C35;1C3B,1C49;1C4D,1C8A;1C90,1CBA;1CBD,1CC7;1CD3,1CD3;1CE1,1CE1;1CE9,1CEC;1CEE,1CF3;1CF5,1CF7;1CFA,1CFA;1D00,1DBF;1E00,1F15;1F18,1F1D;1F20,1F45;1F48,1F4D;1F50,1F57;1F59,1F59;1F5B,1F5B;1F5D,1F5D;1F5F,1F7D;1F80,1FB4;1FB6,1FC4;1FC6,1FD3;1FD6,1FDB;1FDD,1FEF;1FF2,1FF4;1FF6,1FFE;2000,200A;2010,2027;202F,205F;2070,2071;2074,208E;2090,209C;20A0,20C1;2100,218B;2190,2429;2440,244A;2460,2B73;2B76,2CEE;2CF2,2CF3;2CF9,2D25;2D27,2D27;2D2D,2D2D;2D30,2D67;2D6F,2D70;2D80,2D96;2DA0,2DA6;2DA8,2DAE;2DB0,2DB6;2DB8,2DBE;2DC0,2DC6;2DC8,2DCE;2DD0,2DD6;2DD8,2DDE;2E00,2E5D;2E80,2E99;2E9B,2EF3;2F00,2FD5;2FF0,3029;3030,303F;3041,3096;309B,30FF;3105,312F;3131,318E;3190,31E5;31EF,321E;3220,A48C;A490,A4C6;A4D0,A62B;A640,A66E;A673,A673;A67E,A69D;A6A0,A6EF;A6F2,A6F7;A700,A7DC;A7F1,A801;A803,A805;A807,A80A;A80C,A824;A827,A82B;A830,A839;A840,A877;A880,A8C3;A8CE,A8D9;A8F2,A8FE;A900,A925;A92E,A946;A952,A952;A95F,A97C;A983,A9B2;A9B4,A9B5;A9BA,A9BB;A9BE,A9BF;A9C1,A9CD;A9CF,A9D9;A9DE,A9E4;A9E6,A9FE;AA00,AA28;AA2F,AA30;AA33,AA34;AA40,AA42;AA44,AA4B;AA4D,AA4D;AA50,AA59;AA5C,AA7B;AA7D,AAAF;AAB1,AAB1;AAB5,AAB6;AAB9,AABD;AAC0,AAC0;AAC2,AAC2;AADB,AAEB;AAEE,AAF5;AB01,AB06;AB09,AB0E;AB11,AB16;AB20,AB26;AB28,AB2E;AB30,AB6B;AB70,ABE4;ABE6,ABE7;ABE9,ABEC;ABF0,ABF9;AC00,D7A3;D7B0,D7C6;D7CB,D7FB;F900,FA6D;FA70,FAD9;FB00,FB06;FB13,FB17;FB1D,FB1D;FB1F,FB36;FB38,FB3C;FB3E,FB3E;FB40,FB41;FB43,FB44;FB46,FDCF;FDF0,FDFF;FE10,FE19;FE30,FE52;FE54,FE66;FE68,FE6B;FE70,FE74;FE76,FEFC;FF01,FF9D;FFA0,FFBE;FFC2,FFC7;FFCA,FFCF;FFD2,FFD7;FFDA,FFDC;FFE0,FFE6;FFE8,FFEE;FFFC,FFFD;10000,1000B;1000D,10026;10028,1003A;1003C,1003D;1003F,1004D;10050,1005D;10080,100FA;10100,10102;10107,10133;10137,1018E;10190,1019C;101A0,101A0;101D0,101FC;10280,1029C;102A0,102D0;102E1,102FB;10300,10323;1032D,1034A;10350,10375;10380,1039D;1039F,103C3;103C8,103D5;10400,1049D;104A0,104A9;104B0,104D3;104D8,104FB;10500,10527;10530,10563;1056F,1057A;1057C,1058A;1058C,10592;10594,10595;10597,105A1;105A3,105B1;105B3,105B9;105BB,105BC;105C0,105F3;10600,10736;10740,10755;10760,10767;10780,10785;10787,107B0;107B2,107BA;10800,10805;10808,10808;1080A,10835;10837,10838;1083C,1083C;1083F,10855;10857,1089E;108A7,108AF;108E0,108F2;108F4,108F5;108FB,1091B;1091F,10939;1093F,10959;10980,109B7;109BC,109CF;109D2,10A00;10A10,10A13;10A15,10A17;10A19,10A35;10A40,10A48;10A50,10A58;10A60,10A9F;10AC0,10AE4;10AEB,10AF6;10B00,10B35;10B39,10B55;10B58,10B72;10B78,10B91;10B99,10B9C;10BA9,10BAF;10C00,10C48;10C80,10CB2;10CC0,10CF2;10CFA,10D23;10D30,10D39;10D40,10D65;10D6E,10D85;10D8E,10D8F;10E60,10E7E;10E80,10EA9;10EAD,10EAD;10EB0,10EB1;10EC2,10EC7;10ED0,10ED8;10F00,10F27;10F30,10F45;10F51,10F59;10F70,10F81;10F86,10F89;10FB0,10FCB;10FE0,10FF6;11000,11000;11002,11037;11047,1104D;11052,1106F;11071,11072;11075,11075;11082,110B2;110B7,110B8;110BB,110BC;110BE,110C1;110D0,110E8;110F0,110F9;11103,11126;1112C,1112C;11136,11147;11150,11172;11174,11176;11182,111B5;111BF,111BF;111C1,111C8;111CD,111CE;111D0,111DF;111E1,111F4;11200,11211;11213,1122E;11232,11233;11238,1123D;1123F,11240;11280,11286;11288,11288;1128A,1128D;1128F,1129D;1129F,112A9;112B0,112DE;112E0,112E2;112F0,112F9;11302,11303;11305,1130C;1130F,11310;11313,11328;1132A,11330;11332,11333;11335,11339;1133D,1133D;1133F,1133F;11341,11344;11347,11348;1134B,1134C;11350,11350;1135D,11363;11380,11389;1138B,1138B;1138E,1138E;11390,113B5;113B7,113B7;113B9,113BA;113CA,113CA;113CC,113CD;113D1,113D1;113D3,113D5;113D7,113D8;11400,11437;11440,11441;11445,11445;11447,1145B;1145D,1145D;1145F,11461;11480,114AF;114B1,114B2;114B9,114B9;114BB,114BC;114BE,114BE;114C1,114C1;114C4,114C7;114D0,114D9;11580,115AE;115B0,115B1;115B8,115BB;115BE,115BE;115C1,115DB;11600,11632;1163B,1163C;1163E,1163E;11641,11644;11650,11659;11660,1166C;11680,116AA;116AC,116AC;116AE,116AF;116B8,116B9;116C0,116C9;116D0,116E3;11700,1171A;1171E,1171E;11720,11721;11726,11726;11730,11746;11800,1182E;11838,11838;1183B,1183B;118A0,118F2;118FF,11906;11909,11909;1190C,11913;11915,11916;11918,1192F;11931,11935;11937,11938;1193F,11942;11944,11946;11950,11959;119A0,119A7;119AA,119D3;119DC,119DF;119E1,119E4;11A00,11A00;11A0B,11A32;11A39,11A3A;11A3F,11A46;11A50,11A50;11A57,11A58;11A5C,11A89;11A97,11A97;11A9A,11AA2;11AB0,11AF8;11B00,11B09;11B61,11B61;11B65,11B65;11B67,11B67;11BC0,11BE1;11BF0,11BF9;11C00,11C08;11C0A,11C2F;11C3E,11C3E;11C40,11C45;11C50,11C6C;11C70,11C8F;11CA9,11CA9;11CB1,11CB1;11CB4,11CB4;11D00,11D06;11D08,11D09;11D0B,11D30;11D46,11D46;11D50,11D59;11D60,11D65;11D67,11D68;11D6A,11D8E;11D93,11D94;11D96,11D96;11D98,11D98;11DA0,11DA9;11DB0,11DDB;11DE0,11DE9;11EE0,11EF2;11EF5,11EF8;11F02,11F10;11F12,11F35;11F3E,11F3F;11F43,11F59;11FB0,11FB0;11FC0,11FF1;11FFF,12399;12400,1246E;12470,12474;12480,12543;12F90,12FF2;13000,1342F;13441,13446;13460,143FA;14400,14646;16100,1611D;1612A,1612C;16130,16139;16800,16A38;16A40,16A5E;16A60,16A69;16A6E,16ABE;16AC0,16AC9;16AD0,16AED;16AF5,16AF5;16B00,16B2F;16B37,16B45;16B50,16B59;16B5B,16B61;16B63,16B77;16B7D,16B8F;16D40,16D79;16E40,16E9A;16EA0,16EB8;16EBB,16ED3;16F00,16F4A;16F50,16F87;16F93,16F9F;16FE0,16FE3;16FF2,16FF6;17000,18CD5;18CFF,18D1E;18D80,18DF2;1AFF0,1AFF3;1AFF5,1AFFB;1AFFD,1AFFE;1B000,1B122;1B132,1B132;1B150,1B152;1B155,1B155;1B164,1B167;1B170,1B2FB;1BC00,1BC6A;1BC70,1BC7C;1BC80,1BC88;1BC90,1BC99;1BC9C,1BC9C;1BC9F,1BC9F;1CC00,1CCFC;1CD00,1CEB3;1CEBA,1CED0;1CEE0,1CEF0;1CF50,1CFC3;1D000,1D0F5;1D100,1D126;1D129,1D164;1D16A,1D16C;1D183,1D184;1D18C,1D1A9;1D1AE,1D1EA;1D200,1D241;1D245,1D245;1D2C0,1D2D3;1D2E0,1D2F3;1D300,1D356;1D360,1D378;1D400,1D454;1D456,1D49C;1D49E,1D49F;1D4A2,1D4A2;1D4A5,1D4A6;1D4A9,1D4AC;1D4AE,1D4B9;1D4BB,1D4BB;1D4BD,1D4C3;1D4C5,1D505;1D507,1D50A;1D50D,1D514;1D516,1D51C;1D51E,1D539;1D53B,1D53E;1D540,1D544;1D546,1D546;1D54A,1D550;1D552,1D6A5;1D6A8,1D7CB;1D7CE,1D9FF;1DA37,1DA3A;1DA6D,1DA74;1DA76,1DA83;1DA85,1DA8B;1DF00,1DF1E;1DF25,1DF2A;1E030,1E06D;1E100,1E12C;1E137,1E13D;1E140,1E149;1E14E,1E14F;1E290,1E2AD;1E2C0,1E2EB;1E2F0,1E2F9;1E2FF,1E2FF;1E4D0,1E4EB;1E4F0,1E4F9;1E5D0,1E5ED;1E5F0,1E5FA;1E5FF,1E5FF;1E6C0,1E6DE;1E6E0,1E6E2;1E6E4,1E6E5;1E6E7,1E6ED;1E6F0,1E6F4;1E6FE,1E6FF;1E7E0,1E7E6;1E7E8,1E7EB;1E7ED,1E7EE;1E7F0,1E7FE;1E800,1E8C4;1E8C7,1E8CF;1E900,1E943;1E94B,1E94B;1E950,1E959;1E95E,1E95F;1EC71,1ECB4;1ED01,1ED3D;1EE00,1EE03;1EE05,1EE1F;1EE21,1EE22;1EE24,1EE24;1EE27,1EE27;1EE29,1EE32;1EE34,1EE37;1EE39,1EE39;1EE3B,1EE3B;1EE42,1EE42;1EE47,1EE47;1EE49,1EE49;1EE4B,1EE4B;1EE4D,1EE4F;1EE51,1EE52;1EE54,1EE54;1EE57,1EE57;1EE59,1EE59;1EE5B,1EE5B;1EE5D,1EE5D;1EE5F,1EE5F;1EE61,1EE62;1EE64,1EE64;1EE67,1EE6A;1EE6C,1EE72;1EE74,1EE77;1EE79,1EE7C;1EE7E,1EE7E;1EE80,1EE89;1EE8B,1EE9B;1EEA1,1EEA3;1EEA5,1EEA9;1EEAB,1EEBB;1EEF0,1EEF1;1F000,1F02B;1F030,1F093;1F0A0,1F0AE;1F0B1,1F0BF;1F0C1,1F0CF;1F0D1,1F0F5;1F100,1F1AD;1F1E6,1F202;1F210,1F23B;1F240,1F248;1F250,1F251;1F260,1F265;1F300,1F6D8;1F6DC,1F6EC;1F6F0,1F6FC;1F700,1F7D9;1F7E0,1F7EB;1F7F0,1F7F0;1F800,1F80B;1F810,1F847;1F850,1F859;1F860,1F887;1F890,1F8AD;1F8B0,1F8BB;1F8C0,1F8C1;1F8D0,1F8D8;1F900,1FA57;1FA60,1FA6D;1FA70,1FA7C;1FA80,1FA8A;1FA8E,1FAC6;1FAC8,1FAC8;1FACD,1FADC;1FADF,1FAEA;1FAEF,1FAF8;1FB00,1FB92;1FB94,1FBFA;20000,2A6DF;2A700,2B81D;2B820,2CEAD;2CEB0,2EBE0;2EBF0,2EE5D;2F800,2FA1D;30000,3134A;31350,33479;=Grapheme_Extend;300,36F;483,489;591,5BD;5BF,5BF;5C1,5C2;5C4,5C5;5C7,5C7;610,61A;64B,65F;670,670;6D6,6DC;6DF,6E4;6E7,6E8;6EA,6ED;711,711;730,74A;7A6,7B0;7EB,7F3;7FD,7FD;816,819;81B,823;825,827;829,82D;859,85B;897,89F;8CA,8E1;8E3,902;93A,93A;93C,93C;941,948;94D,94D;951,957;962,963;981,981;9BC,9BC;9BE,9BE;9C1,9C4;9CD,9CD;9D7,9D7;9E2,9E3;9FE,9FE;A01,A02;A3C,A3C;A41,A42;A47,A48;A4B,A4D;A51,A51;A70,A71;A75,A75;A81,A82;ABC,ABC;AC1,AC5;AC7,AC8;ACD,ACD;AE2,AE3;AFA,AFF;B01,B01;B3C,B3C;B3E,B3F;B41,B44;B4D,B4D;B55,B57;B62,B63;B82,B82;BBE,BBE;BC0,BC0;BCD,BCD;BD7,BD7;C00,C00;C04,C04;C3C,C3C;C3E,C40;C46,C48;C4A,C4D;C55,C56;C62,C63;C81,C81;CBC,CBC;CBF,CC0;CC2,CC2;CC6,CC8;CCA,CCD;CD5,CD6;CE2,CE3;D00,D01;D3B,D3C;D3E,D3E;D41,D44;D4D,D4D;D57,D57;D62,D63;D81,D81;DCA,DCA;DCF,DCF;DD2,DD4;DD6,DD6;DDF,DDF;E31,E31;E34,E3A;E47,E4E;EB1,EB1;EB4,EBC;EC8,ECE;F18,F19;F35,F35;F37,F37;F39,F39;F71,F7E;F80,F84;F86,F87;F8D,F97;F99,FBC;FC6,FC6;102D,1030;1032,1037;1039,103A;103D,103E;1058,1059;105E,1060;1071,1074;1082,1082;1085,1086;108D,108D;109D,109D;135D,135F;1712,1715;1732,1734;1752,1753;1772,1773;17B4,17B5;17B7,17BD;17C6,17C6;17C9,17D3;17DD,17DD;180B,180D;180F,180F;1885,1886;18A9,18A9;1920,1922;1927,1928;1932,1932;1939,193B;1A17,1A18;1A1B,1A1B;1A56,1A56;1A58,1A5E;1A60,1A60;1A62,1A62;1A65,1A6C;1A73,1A7C;1A7F,1A7F;1AB0,1ADD;1AE0,1AEB;1B00,1B03;1B34,1B3D;1B42,1B44;1B6B,1B73;1B80,1B81;1BA2,1BA5;1BA8,1BAD;1BE6,1BE6;1BE8,1BE9;1BED,1BED;1BEF,1BF3;1C2C,1C33;1C36,1C37;1CD0,1CD2;1CD4,1CE0;1CE2,1CE8;1CED,1CED;1CF4,1CF4;1CF8,1CF9;1DC0,1DFF;200C,200C;20D0,20F0;2CEF,2CF1;2D7F,2D7F;2DE0,2DFF;302A,302F;3099,309A;A66F,A672;A674,A67D;A69E,A69F;A6F0,A6F1;A802,A802;A806,A806;A80B,A80B;A825,A826;A82C,A82C;A8C4,A8C5;A8E0,A8F1;A8FF,A8FF;A926,A92D;A947,A951;A953,A953;A980,A982;A9B3,A9B3;A9B6,A9B9;A9BC,A9BD;A9C0,A9C0;A9E5,A9E5;AA29,AA2E;AA31,AA32;AA35,AA36;AA43,AA43;AA4C,AA4C;AA7C,AA7C;AAB0,AAB0;AAB2,AAB4;AAB7,AAB8;AABE,AABF;AAC1,AAC1;AAEC,AAED;AAF6,AAF6;ABE5,ABE5;ABE8,ABE8;ABED,ABED;FB1E,FB1E;FE00,FE0F;FE20,FE2F;FF9E,FF9F;101FD,101FD;102E0,102E0;10376,1037A;10A01,10A03;10A05,10A06;10A0C,10A0F;10A38,10A3A;10A3F,10A3F;10AE5,10AE6;10D24,10D27;10D69,10D6D;10EAB,10EAC;10EFA,10EFF;10F46,10F50;10F82,10F85;11001,11001;11038,11046;11070,11070;11073,11074;1107F,11081;110B3,110B6;110B9,110BA;110C2,110C2;11100,11102;11127,1112B;1112D,11134;11173,11173;11180,11181;111B6,111BE;111C0,111C0;111C9,111CC;111CF,111CF;1122F,11231;11234,11237;1123E,1123E;11241,11241;112DF,112DF;112E3,112EA;11300,11301;1133B,1133C;1133E,1133E;11340,11340;1134D,1134D;11357,11357;11366,1136C;11370,11374;113B8,113B8;113BB,113C0;113C2,113C2;113C5,113C5;113C7,113C9;113CE,113D0;113D2,113D2;113E1,113E2;11438,1143F;11442,11444;11446,11446;1145E,1145E;114B0,114B0;114B3,114B8;114BA,114BA;114BD,114BD;114BF,114C0;114C2,114C3;115AF,115AF;115B2,115B5;115BC,115BD;115BF,115C0;115DC,115DD;11633,1163A;1163D,1163D;1163F,11640;116AB,116AB;116AD,116AD;116B0,116B7;1171D,1171D;1171F,1171F;11722,11725;11727,1172B;1182F,11837;11839,1183A;11930,11930;1193B,1193E;11943,11943;119D4,119D7;119DA,119DB;119E0,119E0;11A01,11A0A;11A33,11A38;11A3B,11A3E;11A47,11A47;11A51,11A56;11A59,11A5B;11A8A,11A96;11A98,11A99;11B60,11B60;11B62,11B64;11B66,11B66;11C30,11C36;11C38,11C3D;11C3F,11C3F;11C92,11CA7;11CAA,11CB0;11CB2,11CB3;11CB5,11CB6;11D31,11D36;11D3A,11D3A;11D3C,11D3D;11D3F,11D45;11D47,11D47;11D90,11D91;11D95,11D95;11D97,11D97;11EF3,11EF4;11F00,11F01;11F36,11F3A;11F40,11F42;11F5A,11F5A;13440,13440;13447,13455;1611E,16129;1612D,1612F;16AF0,16AF4;16B30,16B36;16F4F,16F4F;16F8F,16F92;16FE4,16FE4;16FF0,16FF1;1BC9D,1BC9E;1CF00,1CF2D;1CF30,1CF46;1D165,1D169;1D16D,1D172;1D17B,1D182;1D185,1D18B;1D1AA,1D1AD;1D242,1D244;1DA00,1DA36;1DA3B,1DA6C;1DA75,1DA75;1DA84,1DA84;1DA9B,1DA9F;1DAA1,1DAAF;1E000,1E006;1E008,1E018;1E01B,1E021;1E023,1E024;1E026,1E02A;1E08F,1E08F;1E130,1E136;1E2AE,1E2AE;1E2EC,1E2EF;1E4EC,1E4EF;1E5EE,1E5EF;1E6E3,1E6E3;1E6E6,1E6E6;1E6EE,1E6EF;1E6F5,1E6F5;1E8D0,1E8D6;1E944,1E94A;E0020,E007F;E0100,E01EF;=Grapheme_Link;94D,94D;9CD,9CD;A4D,A4D;ACD,ACD;B4D,B4D;BCD,BCD;C4D,C4D;CCD,CCD;D3B,D3C;D4D,D4D;DCA,DCA;E3A,E3A;EBA,EBA;F84,F84;1039,103A;1714,1715;1734,1734;17D2,17D2;1A60,1A60;1B44,1B44;1BAA,1BAB;1BF2,1BF3;2D7F,2D7F;A806,A806;A82C,A82C;A8C4,A8C4;A953,A953;A9C0,A9C0;AAF6,AAF6;ABED,ABED;10A3F,10A3F;11046,11046;11070,11070;1107F,1107F;110B9,110B9;11133,11134;111C0,111C0;11235,11235;112EA,112EA;1134D,1134D;113CE,113D0;11442,11442;114C2,114C2;115BF,115BF;1163F,1163F;116B6,116B6;1172B,1172B;11839,11839;1193D,1193E;119E0,119E0;11A34,11A34;11A47,11A47;11A99,11A99;11C3F,11C3F;11D44,11D45;11D97,11D97;11F41,11F42;1612F,1612F;=Hex_Digit;30,39;41,46;61,66;FF10,FF19;FF21,FF26;FF41,FF46;=Hyphen;2D,2D;AD,AD;58A,58A;1806,1806;2010,2011;2E17,2E17;30FB,30FB;FE63,FE63;FF0D,FF0D;FF65,FF65;=IDS_Binary_Operator;2FF0,2FF1;2FF4,2FFD;31EF,31EF;=IDS_Trinary_Operator;2FF2,2FF3;=IDS_Unary_Operator;2FFE,2FFF;=ID_Compat_Math_Continue;=ID_Compat_Math_Start;=ID_Continue;30,39;41,5A;5F,5F;61,7A;AA,AA;B5,B5;B7,B7;BA,BA;C0,D6;D8,F6;F8,2C1;2C6,2D1;2E0,2E4;2EC,2EC;2EE,2EE;300,374;376,377;37A,37D;37F,37F;386,38A;38C,38C;38E,3A1;3A3,3F5;3F7,481;483,487;48A,52F;531,556;559,559;560,588;591,5BD;5BF,5BF;5C1,5C2;5C4,5C5;5C7,5C7;5D0,5EA;5EF,5F2;610,61A;620,669;66E,6D3;6D5,6DC;6DF,6E8;6EA,6FC;6FF,6FF;710,74A;74D,7B1;7C0,7F5;7FA,7FA;7FD,7FD;800,82D;840,85B;860,86A;870,887;889,88F;897,8E1;8E3,963;966,96F;971,983;985,98C;98F,990;993,9A8;9AA,9B0;9B2,9B2;9B6,9B9;9BC,9C4;9C7,9C8;9CB,9CE;9D7,9D7;9DC,9DD;9DF,9E3;9E6,9F1;9FC,9FC;9FE,9FE;A01,A03;A05,A0A;A0F,A10;A13,A28;A2A,A30;A32,A33;A35,A36;A38,A39;A3C,A3C;A3E,A42;A47,A48;A4B,A4D;A51,A51;A59,A5C;A5E,A5E;A66,A75;A81,A83;A85,A8D;A8F,A91;A93,AA8;AAA,AB0;AB2,AB3;AB5,AB9;ABC,AC5;AC7,AC9;ACB,ACD;AD0,AD0;AE0,AE3;AE6,AEF;AF9,AFF;B01,B03;B05,B0C;B0F,B10;B13,B28;B2A,B30;B32,B33;B35,B39;B3C,B44;B47,B48;B4B,B4D;B55,B57;B5C,B5D;B5F,B63;B66,B6F;B71,B71;B82,B83;B85,B8A;B8E,B90;B92,B95;B99,B9A;B9C,B9C;B9E,B9F;BA3,BA4;BA8,BAA;BAE,BB9;BBE,BC2;BC6,BC8;BCA,BCD;BD0,BD0;BD7,BD7;BE6,BEF;C00,C0C;C0E,C10;C12,C28;C2A,C39;C3C,C44;C46,C48;C4A,C4D;C55,C56;C58,C5A;C5C,C5D;C60,C63;C66,C6F;C80,C83;C85,C8C;C8E,C90;C92,CA8;CAA,CB3;CB5,CB9;CBC,CC4;CC6,CC8;CCA,CCD;CD5,CD6;CDC,CDE;CE0,CE3;CE6,CEF;CF1,CF3;D00,D0C;D0E,D10;D12,D44;D46,D48;D4A,D4E;D54,D57;D5F,D63;D66,D6F;D7A,D7F;D81,D83;D85,D96;D9A,DB1;DB3,DBB;DBD,DBD;DC0,DC6;DCA,DCA;DCF,DD4;DD6,DD6;DD8,DDF;DE6,DEF;DF2,DF3;E01,E3A;E40,E4E;E50,E59;E81,E82;E84,E84;E86,E8A;E8C,EA3;EA5,EA5;EA7,EBD;EC0,EC4;EC6,EC6;EC8,ECE;ED0,ED9;EDC,EDF;F00,F00;F18,F19;F20,F29;F35,F35;F37,F37;F39,F39;F3E,F47;F49,F6C;F71,F84;F86,F97;F99,FBC;FC6,FC6;1000,1049;1050,109D;10A0,10C5;10C7,10C7;10CD,10CD;10D0,10FA;10FC,1248;124A,124D;1250,1256;1258,1258;125A,125D;1260,1288;128A,128D;1290,12B0;12B2,12B5;12B8,12BE;12C0,12C0;12C2,12C5;12C8,12D6;12D8,1310;1312,1315;1318,135A;135D,135F;1369,1371;1380,138F;13A0,13F5;13F8,13FD;1401,166C;166F,167F;1681,169A;16A0,16EA;16EE,16F8;1700,1715;171F,1734;1740,1753;1760,176C;176E,1770;1772,1773;1780,17D3;17D7,17D7;17DC,17DD;17E0,17E9;180B,180D;180F,1819;1820,1878;1880,18AA;18B0,18F5;1900,191E;1920,192B;1930,193B;1946,196D;1970,1974;1980,19AB;19B0,19C9;19D0,19DA;1A00,1A1B;1A20,1A5E;1A60,1A7C;1A7F,1A89;1A90,1A99;1AA7,1AA7;1AB0,1ABD;1ABF,1ADD;1AE0,1AEB;1B00,1B4C;1B50,1B59;1B6B,1B73;1B80,1BF3;1C00,1C37;1C40,1C49;1C4D,1C7D;1C80,1C8A;1C90,1CBA;1CBD,1CBF;1CD0,1CD2;1CD4,1CFA;1D00,1F15;1F18,1F1D;1F20,1F45;1F48,1F4D;1F50,1F57;1F59,1F59;1F5B,1F5B;1F5D,1F5D;1F5F,1F7D;1F80,1FB4;1FB6,1FBC;1FBE,1FBE;1FC2,1FC4;1FC6,1FCC;1FD0,1FD3;1FD6,1FDB;1FE0,1FEC;1FF2,1FF4;1FF6,1FFC;200C,200D;203F,2040;2054,2054;2071,2071;207F,207F;2090,209C;20D0,20DC;20E1,20E1;20E5,20F0;2102,2102;2107,2107;210A,2113;2115,2115;2118,211D;2124,2124;2126,2126;2128,2128;212A,2139;213C,213F;2145,2149;214E,214E;2160,2188;2C00,2CE4;2CEB,2CF3;2D00,2D25;2D27,2D27;2D2D,2D2D;2D30,2D67;2D6F,2D6F;2D7F,2D96;2DA0,2DA6;2DA8,2DAE;2DB0,2DB6;2DB8,2DBE;2DC0,2DC6;2DC8,2DCE;2DD0,2DD6;2DD8,2DDE;2DE0,2DFF;3005,3007;3021,302F;3031,3035;3038,303C;3041,3096;3099,309F;30A1,30FF;3105,312F;3131,318E;31A0,31BF;31F0,31FF;3400,4DBF;4E00,A48C;A4D0,A4FD;A500,A60C;A610,A62B;A640,A66F;A674,A67D;A67F,A6F1;A717,A71F;A722,A788;A78B,A7DC;A7F1,A827;A82C,A82C;A840,A873;A880,A8C5;A8D0,A8D9;A8E0,A8F7;A8FB,A8FB;A8FD,A92D;A930,A953;A960,A97C;A980,A9C0;A9CF,A9D9;A9E0,A9FE;AA00,AA36;AA40,AA4D;AA50,AA59;AA60,AA76;AA7A,AAC2;AADB,AADD;AAE0,AAEF;AAF2,AAF6;AB01,AB06;AB09,AB0E;AB11,AB16;AB20,AB26;AB28,AB2E;AB30,AB5A;AB5C,AB69;AB70,ABEA;ABEC,ABED;ABF0,ABF9;AC00,D7A3;D7B0,D7C6;D7CB,D7FB;F900,FA6D;FA70,FAD9;FB00,FB06;FB13,FB17;FB1D,FB28;FB2A,FB36;FB38,FB3C;FB3E,FB3E;FB40,FB41;FB43,FB44;FB46,FBB1;FBD3,FD3D;FD50,FD8F;FD92,FDC7;FDF0,FDFB;FE00,FE0F;FE20,FE2F;FE33,FE34;FE4D,FE4F;FE70,FE74;FE76,FEFC;FF10,FF19;FF21,FF3A;FF3F,FF3F;FF41,FF5A;FF65,FFBE;FFC2,FFC7;FFCA,FFCF;FFD2,FFD7;FFDA,FFDC;10000,1000B;1000D,10026;10028,1003A;1003C,1003D;1003F,1004D;10050,1005D;10080,100FA;10140,10174;101FD,101FD;10280,1029C;102A0,102D0;102E0,102E0;10300,1031F;1032D,1034A;10350,1037A;10380,1039D;103A0,103C3;103C8,103CF;103D1,103D5;10400,1049D;104A0,104A9;104B0,104D3;104D8,104FB;10500,10527;10530,10563;10570,1057A;1057C,1058A;1058C,10592;10594,10595;10597,105A1;105A3,105B1;105B3,105B9;105BB,105BC;105C0,105F3;10600,10736;10740,10755;10760,10767;10780,10785;10787,107B0;107B2,107BA;10800,10805;10808,10808;1080A,10835;10837,10838;1083C,1083C;1083F,10855;10860,10876;10880,1089E;108E0,108F2;108F4,108F5;10900,10915;10920,10939;10940,10959;10980,109B7;109BE,109BF;10A00,10A03;10A05,10A06;10A0C,10A13;10A15,10A17;10A19,10A35;10A38,10A3A;10A3F,10A3F;10A60,10A7C;10A80,10A9C;10AC0,10AC7;10AC9,10AE6;10B00,10B35;10B40,10B55;10B60,10B72;10B80,10B91;10C00,10C48;10C80,10CB2;10CC0,10CF2;10D00,10D27;10D30,10D39;10D40,10D65;10D69,10D6D;10D6F,10D85;10E80,10EA9;10EAB,10EAC;10EB0,10EB1;10EC2,10EC7;10EFA,10F1C;10F27,10F27;10F30,10F50;10F70,10F85;10FB0,10FC4;10FE0,10FF6;11000,11046;11066,11075;1107F,110BA;110C2,110C2;110D0,110E8;110F0,110F9;11100,11134;11136,1113F;11144,11147;11150,11173;11176,11176;11180,111C4;111C9,111CC;111CE,111DA;111DC,111DC;11200,11211;11213,11237;1123E,11241;11280,11286;11288,11288;1128A,1128D;1128F,1129D;1129F,112A8;112B0,112EA;112F0,112F9;11300,11303;11305,1130C;1130F,11310;11313,11328;1132A,11330;11332,11333;11335,11339;1133B,11344;11347,11348;1134B,1134D;11350,11350;11357,11357;1135D,11363;11366,1136C;11370,11374;11380,11389;1138B,1138B;1138E,1138E;11390,113B5;113B7,113C0;113C2,113C2;113C5,113C5;113C7,113CA;113CC,113D3;113E1,113E2;11400,1144A;11450,11459;1145E,11461;11480,114C5;114C7,114C7;114D0,114D9;11580,115B5;115B8,115C0;115D8,115DD;11600,11640;11644,11644;11650,11659;11680,116B8;116C0,116C9;116D0,116E3;11700,1171A;1171D,1172B;11730,11739;11740,11746;11800,1183A;118A0,118E9;118FF,11906;11909,11909;1190C,11913;11915,11916;11918,11935;11937,11938;1193B,11943;11950,11959;119A0,119A7;119AA,119D7;119DA,119E1;119E3,119E4;11A00,11A3E;11A47,11A47;11A50,11A99;11A9D,11A9D;11AB0,11AF8;11B60,11B67;11BC0,11BE0;11BF0,11BF9;11C00,11C08;11C0A,11C36;11C38,11C40;11C50,11C59;11C72,11C8F;11C92,11CA7;11CA9,11CB6;11D00,11D06;11D08,11D09;11D0B,11D36;11D3A,11D3A;11D3C,11D3D;11D3F,11D47;11D50,11D59;11D60,11D65;11D67,11D68;11D6A,11D8E;11D90,11D91;11D93,11D98;11DA0,11DA9;11DB0,11DDB;11DE0,11DE9;11EE0,11EF6;11F00,11F10;11F12,11F3A;11F3E,11F42;11F50,11F5A;11FB0,11FB0;12000,12399;12400,1246E;12480,12543;12F90,12FF0;13000,1342F;13440,13455;13460,143FA;14400,14646;16100,16139;16800,16A38;16A40,16A5E;16A60,16A69;16A70,16ABE;16AC0,16AC9;16AD0,16AED;16AF0,16AF4;16B00,16B36;16B40,16B43;16B50,16B59;16B63,16B77;16B7D,16B8F;16D40,16D6C;16D70,16D79;16E40,16E7F;16EA0,16EB8;16EBB,16ED3;16F00,16F4A;16F4F,16F87;16F8F,16F9F;16FE0,16FE1;16FE3,16FE4;16FF0,16FF6;17000,18CD5;18CFF,18D1E;18D80,18DF2;1AFF0,1AFF3;1AFF5,1AFFB;1AFFD,1AFFE;1B000,1B122;1B132,1B132;1B150,1B152;1B155,1B155;1B164,1B167;1B170,1B2FB;1BC00,1BC6A;1BC70,1BC7C;1BC80,1BC88;1BC90,1BC99;1BC9D,1BC9E;1CCF0,1CCF9;1CF00,1CF2D;1CF30,1CF46;1D165,1D169;1D16D,1D172;1D17B,1D182;1D185,1D18B;1D1AA,1D1AD;1D242,1D244;1D400,1D454;1D456,1D49C;1D49E,1D49F;1D4A2,1D4A2;1D4A5,1D4A6;1D4A9,1D4AC;1D4AE,1D4B9;1D4BB,1D4BB;1D4BD,1D4C3;1D4C5,1D505;1D507,1D50A;1D50D,1D514;1D516,1D51C;1D51E,1D539;1D53B,1D53E;1D540,1D544;1D546,1D546;1D54A,1D550;1D552,1D6A5;1D6A8,1D6C0;1D6C2,1D6DA;1D6DC,1D6FA;1D6FC,1D714;1D716,1D734;1D736,1D74E;1D750,1D76E;1D770,1D788;1D78A,1D7A8;1D7AA,1D7C2;1D7C4,1D7CB;1D7CE,1D7FF;1DA00,1DA36;1DA3B,1DA6C;1DA75,1DA75;1DA84,1DA84;1DA9B,1DA9F;1DAA1,1DAAF;1DF00,1DF1E;1DF25,1DF2A;1E000,1E006;1E008,1E018;1E01B,1E021;1E023,1E024;1E026,1E02A;1E030,1E06D;1E08F,1E08F;1E100,1E12C;1E130,1E13D;1E140,1E149;1E14E,1E14E;1E290,1E2AE;1E2C0,1E2F9;1E4D0,1E4F9;1E5D0,1E5FA;1E6C0,1E6DE;1E6E0,1E6F5;1E6FE,1E6FF;1E7E0,1E7E6;1E7E8,1E7EB;1E7ED,1E7EE;1E7F0,1E7FE;1E800,1E8C4;1E8D0,1E8D6;1E900,1E94B;1E950,1E959;1EE00,1EE03;1EE05,1EE1F;1EE21,1EE22;1EE24,1EE24;1EE27,1EE27;1EE29,1EE32;1EE34,1EE37;1EE39,1EE39;1EE3B,1EE3B;1EE42,1EE42;1EE47,1EE47;1EE49,1EE49;1EE4B,1EE4B;1EE4D,1EE4F;1EE51,1EE52;1EE54,1EE54;1EE57,1EE57;1EE59,1EE59;1EE5B,1EE5B;1EE5D,1EE5D;1EE5F,1EE5F;1EE61,1EE62;1EE64,1EE64;1EE67,1EE6A;1EE6C,1EE72;1EE74,1EE77;1EE79,1EE7C;1EE7E,1EE7E;1EE80,1EE89;1EE8B,1EE9B;1EEA1,1EEA3;1EEA5,1EEA9;1EEAB,1EEBB;1FBF0,1FBF9;20000,2A6DF;2A700,2B81D;2B820,2CEAD;2CEB0,2EBE0;2EBF0,2EE5D;2F800,2FA1D;30000,3134A;31350,33479;E0100,E01EF;=ID_Start;41,5A;61,7A;AA,AA;B5,B5;BA,BA;C0,D6;D8,F6;F8,2C1;2C6,2D1;2E0,2E4;2EC,2EC;2EE,2EE;370,374;376,377;37A,37D;37F,37F;386,386;388,38A;38C,38C;38E,3A1;3A3,3F5;3F7,481;48A,52F;531,556;559,559;560,588;5D0,5EA;5EF,5F2;620,64A;66E,66F;671,6D3;6D5,6D5;6E5,6E6;6EE,6EF;6FA,6FC;6FF,6FF;710,710;712,72F;74D,7A5;7B1,7B1;7CA,7EA;7F4,7F5;7FA,7FA;800,815;81A,81A;824,824;828,828;840,858;860,86A;870,887;889,88F;8A0,8C9;904,939;93D,93D;950,950;958,961;971,980;985,98C;98F,990;993,9A8;9AA,9B0;9B2,9B2;9B6,9B9;9BD,9BD;9CE,9CE;9DC,9DD;9DF,9E1;9F0,9F1;9FC,9FC;A05,A0A;A0F,A10;A13,A28;A2A,A30;A32,A33;A35,A36;A38,A39;A59,A5C;A5E,A5E;A72,A74;A85,A8D;A8F,A91;A93,AA8;AAA,AB0;AB2,AB3;AB5,AB9;ABD,ABD;AD0,AD0;AE0,AE1;AF9,AF9;B05,B0C;B0F,B10;B13,B28;B2A,B30;B32,B33;B35,B39;B3D,B3D;B5C,B5D;B5F,B61;B71,B71;B83,B83;B85,B8A;B8E,B90;B92,B95;B99,B9A;B9C,B9C;B9E,B9F;BA3,BA4;BA8,BAA;BAE,BB9;BD0,BD0;C05,C0C;C0E,C10;C12,C28;C2A,C39;C3D,C3D;C58,C5A;C5C,C5D;C60,C61;C80,C80;C85,C8C;C8E,C90;C92,CA8;CAA,CB3;CB5,CB9;CBD,CBD;CDC,CDE;CE0,CE1;CF1,CF2;D04,D0C;D0E,D10;D12,D3A;D3D,D3D;D4E,D4E;D54,D56;D5F,D61;D7A,D7F;D85,D96;D9A,DB1;DB3,DBB;DBD,DBD;DC0,DC6;E01,E30;E32,E33;E40,E46;E81,E82;E84,E84;E86,E8A;E8C,EA3;EA5,EA5;EA7,EB0;EB2,EB3;EBD,EBD;EC0,EC4;EC6,EC6;EDC,EDF;F00,F00;F40,F47;F49,F6C;F88,F8C;1000,102A;103F,103F;1050,1055;105A,105D;1061,1061;1065,1066;106E,1070;1075,1081;108E,108E;10A0,10C5;10C7,10C7;10CD,10CD;10D0,10FA;10FC,1248;124A,124D;1250,1256;1258,1258;125A,125D;1260,1288;128A,128D;1290,12B0;12B2,12B5;12B8,12BE;12C0,12C0;12C2,12C5;12C8,12D6;12D8,1310;1312,1315;1318,135A;1380,138F;13A0,13F5;13F8,13FD;1401,166C;166F,167F;1681,169A;16A0,16EA;16EE,16F8;1700,1711;171F,1731;1740,1751;1760,176C;176E,1770;1780,17B3;17D7,17D7;17DC,17DC;1820,1878;1880,18A8;18AA,18AA;18B0,18F5;1900,191E;1950,196D;1970,1974;1980,19AB;19B0,19C9;1A00,1A16;1A20,1A54;1AA7,1AA7;1B05,1B33;1B45,1B4C;1B83,1BA0;1BAE,1BAF;1BBA,1BE5;1C00,1C23;1C4D,1C4F;1C5A,1C7D;1C80,1C8A;1C90,1CBA;1CBD,1CBF;1CE9,1CEC;1CEE,1CF3;1CF5,1CF6;1CFA,1CFA;1D00,1DBF;1E00,1F15;1F18,1F1D;1F20,1F45;1F48,1F4D;1F50,1F57;1F59,1F59;1F5B,1F5B;1F5D,1F5D;1F5F,1F7D;1F80,1FB4;1FB6,1FBC;1FBE,1FBE;1FC2,1FC4;1FC6,1FCC;1FD0,1FD3;1FD6,1FDB;1FE0,1FEC;1FF2,1FF4;1FF6,1FFC;2071,2071;207F,207F;2090,209C;2102,2102;2107,2107;210A,2113;2115,2115;2118,211D;2124,2124;2126,2126;2128,2128;212A,2139;213C,213F;2145,2149;214E,214E;2160,2188;2C00,2CE4;2CEB,2CEE;2CF2,2CF3;2D00,2D25;2D27,2D27;2D2D,2D2D;2D30,2D67;2D6F,2D6F;2D80,2D96;2DA0,2DA6;2DA8,2DAE;2DB0,2DB6;2DB8,2DBE;2DC0,2DC6;2DC8,2DCE;2DD0,2DD6;2DD8,2DDE;3005,3007;3021,3029;3031,3035;3038,303C;3041,3096;309B,309F;30A1,30FA;30FC,30FF;3105,312F;3131,318E;31A0,31BF;31F0,31FF;3400,4DBF;4E00,A48C;A4D0,A4FD;A500,A60C;A610,A61F;A62A,A62B;A640,A66E;A67F,A69D;A6A0,A6EF;A717,A71F;A722,A788;A78B,A7DC;A7F1,A801;A803,A805;A807,A80A;A80C,A822;A840,A873;A882,A8B3;A8F2,A8F7;A8FB,A8FB;A8FD,A8FE;A90A,A925;A930,A946;A960,A97C;A984,A9B2;A9CF,A9CF;A9E0,A9E4;A9E6,A9EF;A9FA,A9FE;AA00,AA28;AA40,AA42;AA44,AA4B;AA60,AA76;AA7A,AA7A;AA7E,AAAF;AAB1,AAB1;AAB5,AAB6;AAB9,AABD;AAC0,AAC0;AAC2,AAC2;AADB,AADD;AAE0,AAEA;AAF2,AAF4;AB01,AB06;AB09,AB0E;AB11,AB16;AB20,AB26;AB28,AB2E;AB30,AB5A;AB5C,AB69;AB70,ABE2;AC00,D7A3;D7B0,D7C6;D7CB,D7FB;F900,FA6D;FA70,FAD9;FB00,FB06;FB13,FB17;FB1D,FB1D;FB1F,FB28;FB2A,FB36;FB38,FB3C;FB3E,FB3E;FB40,FB41;FB43,FB44;FB46,FBB1;FBD3,FD3D;FD50,FD8F;FD92,FDC7;FDF0,FDFB;FE70,FE74;FE76,FEFC;FF21,FF3A;FF41,FF5A;FF66,FFBE;FFC2,FFC7;FFCA,FFCF;FFD2,FFD7;FFDA,FFDC;10000,1000B;1000D,10026;10028,1003A;1003C,1003D;1003F,1004D;10050,1005D;10080,100FA;10140,10174;10280,1029C;102A0,102D0;10300,1031F;1032D,1034A;10350,10375;10380,1039D;103A0,103C3;103C8,103CF;103D1,103D5;10400,1049D;104B0,104D3;104D8,104FB;10500,10527;10530,10563;10570,1057A;1057C,1058A;1058C,10592;10594,10595;10597,105A1;105A3,105B1;105B3,105B9;105BB,105BC;105C0,105F3;10600,10736;10740,10755;10760,10767;10780,10785;10787,107B0;107B2,107BA;10800,10805;10808,10808;1080A,10835;10837,10838;1083C,1083C;1083F,10855;10860,10876;10880,1089E;108E0,108F2;108F4,108F5;10900,10915;10920,10939;10940,10959;10980,109B7;109BE,109BF;10A00,10A00;10A10,10A13;10A15,10A17;10A19,10A35;10A60,10A7C;10A80,10A9C;10AC0,10AC7;10AC9,10AE4;10B00,10B35;10B40,10B55;10B60,10B72;10B80,10B91;10C00,10C48;10C80,10CB2;10CC0,10CF2;10D00,10D23;10D4A,10D65;10D6F,10D85;10E80,10EA9;10EB0,10EB1;10EC2,10EC7;10F00,10F1C;10F27,10F27;10F30,10F45;10F70,10F81;10FB0,10FC4;10FE0,10FF6;11003,11037;11071,11072;11075,11075;11083,110AF;110D0,110E8;11103,11126;11144,11144;11147,11147;11150,11172;11176,11176;11183,111B2;111C1,111C4;111DA,111DA;111DC,111DC;11200,11211;11213,1122B;1123F,11240;11280,11286;11288,11288;1128A,1128D;1128F,1129D;1129F,112A8;112B0,112DE;11305,1130C;1130F,11310;11313,11328;1132A,11330;11332,11333;11335,11339;1133D,1133D;11350,11350;1135D,11361;11380,11389;1138B,1138B;1138E,1138E;11390,113B5;113B7,113B7;113D1,113D1;113D3,113D3;11400,11434;11447,1144A;1145F,11461;11480,114AF;114C4,114C5;114C7,114C7;11580,115AE;115D8,115DB;11600,1162F;11644,11644;11680,116AA;116B8,116B8;11700,1171A;11740,11746;11800,1182B;118A0,118DF;118FF,11906;11909,11909;1190C,11913;11915,11916;11918,1192F;1193F,1193F;11941,11941;119A0,119A7;119AA,119D0;119E1,119E1;119E3,119E3;11A00,11A00;11A0B,11A32;11A3A,11A3A;11A50,11A50;11A5C,11A89;11A9D,11A9D;11AB0,11AF8;11BC0,11BE0;11C00,11C08;11C0A,11C2E;11C40,11C40;11C72,11C8F;11D00,11D06;11D08,11D09;11D0B,11D30;11D46,11D46;11D60,11D65;11D67,11D68;11D6A,11D89;11D98,11D98;11DB0,11DDB;11EE0,11EF2;11F02,11F02;11F04,11F10;11F12,11F33;11FB0,11FB0;12000,12399;12400,1246E;12480,12543;12F90,12FF0;13000,1342F;13441,13446;13460,143FA;14400,14646;16100,1611D;16800,16A38;16A40,16A5E;16A70,16ABE;16AD0,16AED;16B00,16B2F;16B40,16B43;16B63,16B77;16B7D,16B8F;16D40,16D6C;16E40,16E7F;16EA0,16EB8;16EBB,16ED3;16F00,16F4A;16F50,16F50;16F93,16F9F;16FE0,16FE1;16FE3,16FE3;16FF2,16FF6;17000,18CD5;18CFF,18D1E;18D80,18DF2;1AFF0,1AFF3;1AFF5,1AFFB;1AFFD,1AFFE;1B000,1B122;1B132,1B132;1B150,1B152;1B155,1B155;1B164,1B167;1B170,1B2FB;1BC00,1BC6A;1BC70,1BC7C;1BC80,1BC88;1BC90,1BC99;1D400,1D454;1D456,1D49C;1D49E,1D49F;1D4A2,1D4A2;1D4A5,1D4A6;1D4A9,1D4AC;1D4AE,1D4B9;1D4BB,1D4BB;1D4BD,1D4C3;1D4C5,1D505;1D507,1D50A;1D50D,1D514;1D516,1D51C;1D51E,1D539;1D53B,1D53E;1D540,1D544;1D546,1D546;1D54A,1D550;1D552,1D6A5;1D6A8,1D6C0;1D6C2,1D6DA;1D6DC,1D6FA;1D6FC,1D714;1D716,1D734;1D736,1D74E;1D750,1D76E;1D770,1D788;1D78A,1D7A8;1D7AA,1D7C2;1D7C4,1D7CB;1DF00,1DF1E;1DF25,1DF2A;1E030,1E06D;1E100,1E12C;1E137,1E13D;1E14E,1E14E;1E290,1E2AD;1E2C0,1E2EB;1E4D0,1E4EB;1E5D0,1E5ED;1E5F0,1E5F0;1E6C0,1E6DE;1E6E0,1E6E2;1E6E4,1E6E5;1E6E7,1E6ED;1E6F0,1E6F4;1E6FE,1E6FF;1E7E0,1E7E6;1E7E8,1E7EB;1E7ED,1E7EE;1E7F0,1E7FE;1E800,1E8C4;1E900,1E943;1E94B,1E94B;1EE00,1EE03;1EE05,1EE1F;1EE21,1EE22;1EE24,1EE24;1EE27,1EE27;1EE29,1EE32;1EE34,1EE37;1EE39,1EE39;1EE3B,1EE3B;1EE42,1EE42;1EE47,1EE47;1EE49,1EE49;1EE4B,1EE4B;1EE4D,1EE4F;1EE51,1EE52;1EE54,1EE54;1EE57,1EE57;1EE59,1EE59;1EE5B,1EE5B;1EE5D,1EE5D;1EE5F,1EE5F;1EE61,1EE62;1EE64,1EE64;1EE67,1EE6A;1EE6C,1EE72;1EE74,1EE77;1EE79,1EE7C;1EE7E,1EE7E;1EE80,1EE89;1EE8B,1EE9B;1EEA1,1EEA3;1EEA5,1EEA9;1EEAB,1EEBB;20000,2A6DF;2A700,2B81D;2B820,2CEAD;2CEB0,2EBE0;2EBF0,2EE5D;2F800,2FA1D;30000,3134A;31350,33479;=Ideographic;3006,3007;3021,3029;3038,303A;3400,4DBF;4E00,9FFF;F900,FA6D;FA70,FAD9;16FE4,16FE4;16FF2,16FF6;17000,18CD5;18CFF,18D1E;18D80,18DF2;1B170,1B2FB;20000,2A6DF;2A700,2B81D;2B820,2CEAD;2CEB0,2EBE0;2EBF0,2EE5D;2F800,2FA1D;30000,3134A;31350,33479;=Join_Control;200C,200D;=Logical_Order_Exception;E40,E44;EC0,EC4;19B5,19B7;19BA,19BA;AAB5,AAB6;AAB9,AAB9;AABB,AABC;=Lowercase;61,7A;AA,AA;B5,B5;BA,BA;DF,F6;F8,FF;101,101;103,103;105,105;107,107;109,109;10B,10B;10D,10D;10F,10F;111,111;113,113;115,115;117,117;119,119;11B,11B;11D,11D;11F,11F;121,121;123,123;125,125;127,127;129,129;12B,12B;12D,12D;12F,12F;131,131;133,133;135,135;137,138;13A,13A;13C,13C;13E,13E;140,140;142,142;144,144;146,146;148,149;14B,14B;14D,14D;14F,14F;151,151;153,153;155,155;157,157;159,159;15B,15B;15D,15D;15F,15F;161,161;163,163;165,165;167,167;169,169;16B,16B;16D,16D;16F,16F;171,171;173,173;175,175;177,177;17A,17A;17C,17C;17E,180;183,183;185,185;188,188;18C,18D;192,192;195,195;199,19B;19E,19E;1A1,1A1;1A3,1A3;1A5,1A5;1A8,1A8;1AA,1AB;1AD,1AD;1B0,1B0;1B4,1B4;1B6,1B6;1B9,1BA;1BD,1BF;1C6,1C6;1C9,1C9;1CC,1CC;1CE,1CE;1D0,1D0;1D2,1D2;1D4,1D4;1D6,1D6;1D8,1D8;1DA,1DA;1DC,1DD;1DF,1DF;1E1,1E1;1E3,1E3;1E5,1E5;1E7,1E7;1E9,1E9;1EB,1EB;1ED,1ED;1EF,1F0;1F3,1F3;1F5,1F5;1F9,1F9;1FB,1FB;1FD,1FD;1FF,1FF;201,201;203,203;205,205;207,207;209,209;20B,20B;20D,20D;20F,20F;211,211;213,213;215,215;217,217;219,219;21B,21B;21D,21D;21F,21F;221,221;223,223;225,225;227,227;229,229;22B,22B;22D,22D;22F,22F;231,231;233,239;23C,23C;23F,240;242,242;247,247;249,249;24B,24B;24D,24D;24F,293;296,2B8;2C0,2C1;2E0,2E4;345,345;371,371;373,373;377,377;37A,37D;390,390;3AC,3CE;3D0,3D1;3D5,3D7;3D9,3D9;3DB,3DB;3DD,3DD;3DF,3DF;3E1,3E1;3E3,3E3;3E5,3E5;3E7,3E7;3E9,3E9;3EB,3EB;3ED,3ED;3EF,3F3;3F5,3F5;3F8,3F8;3FB,3FC;430,45F;461,461;463,463;465,465;467,467;469,469;46B,46B;46D,46D;46F,46F;471,471;473,473;475,475;477,477;479,479;47B,47B;47D,47D;47F,47F;481,481;48B,48B;48D,48D;48F,48F;491,491;493,493;495,495;497,497;499,499;49B,49B;49D,49D;49F,49F;4A1,4A1;4A3,4A3;4A5,4A5;4A7,4A7;4A9,4A9;4AB,4AB;4AD,4AD;4AF,4AF;4B1,4B1;4B3,4B3;4B5,4B5;4B7,4B7;4B9,4B9;4BB,4BB;4BD,4BD;4BF,4BF;4C2,4C2;4C4,4C4;4C6,4C6;4C8,4C8;4CA,4CA;4CC,4CC;4CE,4CF;4D1,4D1;4D3,4D3;4D5,4D5;4D7,4D7;4D9,4D9;4DB,4DB;4DD,4DD;4DF,4DF;4E1,4E1;4E3,4E3;4E5,4E5;4E7,4E7;4E9,4E9;4EB,4EB;4ED,4ED;4EF,4EF;4F1,4F1;4F3,4F3;4F5,4F5;4F7,4F7;4F9,4F9;4FB,4FB;4FD,4FD;4FF,4FF;501,501;503,503;505,505;507,507;509,509;50B,50B;50D,50D;50F,50F;511,511;513,513;515,515;517,517;519,519;51B,51B;51D,51D;51F,51F;521,521;523,523;525,525;527,527;529,529;52B,52B;52D,52D;52F,52F;560,588;10D0,10FA;10FC,10FF;13F8,13FD;1C80,1C88;1C8A,1C8A;1D00,1DBF;1E01,1E01;1E03,1E03;1E05,1E05;1E07,1E07;1E09,1E09;1E0B,1E0B;1E0D,1E0D;1E0F,1E0F;1E11,1E11;1E13,1E13;1E15,1E15;1E17,1E17;1E19,1E19;1E1B,1E1B;1E1D,1E1D;1E1F,1E1F;1E21,1E21;1E23,1E23;1E25,1E25;1E27,1E27;1E29,1E29;1E2B,1E2B;1E2D,1E2D;1E2F,1E2F;1E31,1E31;1E33,1E33;1E35,1E35;1E37,1E37;1E39,1E39;1E3B,1E3B;1E3D,1E3D;1E3F,1E3F;1E41,1E41;1E43,1E43;1E45,1E45;1E47,1E47;1E49,1E49;1E4B,1E4B;1E4D,1E4D;1E4F,1E4F;1E51,1E51;1E53,1E53;1E55,1E55;1E57,1E57;1E59,1E59;1E5B,1E5B;1E5D,1E5D;1E5F,1E5F;1E61,1E61;1E63,1E63;1E65,1E65;1E67,1E67;1E69,1E69;1E6B,1E6B;1E6D,1E6D;1E6F,1E6F;1E71,1E71;1E73,1E73;1E75,1E75;1E77,1E77;1E79,1E79;1E7B,1E7B;1E7D,1E7D;1E7F,1E7F;1E81,1E81;1E83,1E83;1E85,1E85;1E87,1E87;1E89,1E89;1E8B,1E8B;1E8D,1E8D;1E8F,1E8F;1E91,1E91;1E93,1E93;1E95,1E9D;1E9F,1E9F;1EA1,1EA1;1EA3,1EA3;1EA5,1EA5;1EA7,1EA7;1EA9,1EA9;1EAB,1EAB;1EAD,1EAD;1EAF,1EAF;1EB1,1EB1;1EB3,1EB3;1EB5,1EB5;1EB7,1EB7;1EB9,1EB9;1EBB,1EBB;1EBD,1EBD;1EBF,1EBF;1EC1,1EC1;1EC3,1EC3;1EC5,1EC5;1EC7,1EC7;1EC9,1EC9;1ECB,1ECB;1ECD,1ECD;1ECF,1ECF;1ED1,1ED1;1ED3,1ED3;1ED5,1ED5;1ED7,1ED7;1ED9,1ED9;1EDB,1EDB;1EDD,1EDD;1EDF,1EDF;1EE1,1EE1;1EE3,1EE3;1EE5,1EE5;1EE7,1EE7;1EE9,1EE9;1EEB,1EEB;1EED,1EED;1EEF,1EEF;1EF1,1EF1;1EF3,1EF3;1EF5,1EF5;1EF7,1EF7;1EF9,1EF9;1EFB,1EFB;1EFD,1EFD;1EFF,1F07;1F10,1F15;1F20,1F27;1F30,1F37;1F40,1F45;1F50,1F57;1F60,1F67;1F70,1F7D;1F80,1F87;1F90,1F97;1FA0,1FA7;1FB0,1FB4;1FB6,1FB7;1FBE,1FBE;1FC2,1FC4;1FC6,1FC7;1FD0,1FD3;1FD6,1FD7;1FE0,1FE7;1FF2,1FF4;1FF6,1FF7;2071,2071;207F,207F;2090,209C;210A,210A;210E,210F;2113,2113;212F,212F;2134,2134;2139,2139;213C,213D;2146,2149;214E,214E;2170,217F;2184,2184;24D0,24E9;2C30,2C5F;2C61,2C61;2C65,2C66;2C68,2C68;2C6A,2C6A;2C6C,2C6C;2C71,2C71;2C73,2C74;2C76,2C7D;2C81,2C81;2C83,2C83;2C85,2C85;2C87,2C87;2C89,2C89;2C8B,2C8B;2C8D,2C8D;2C8F,2C8F;2C91,2C91;2C93,2C93;2C95,2C95;2C97,2C97;2C99,2C99;2C9B,2C9B;2C9D,2C9D;2C9F,2C9F;2CA1,2CA1;2CA3,2CA3;2CA5,2CA5;2CA7,2CA7;2CA9,2CA9;2CAB,2CAB;2CAD,2CAD;2CAF,2CAF;2CB1,2CB1;2CB3,2CB3;2CB5,2CB5;2CB7,2CB7;2CB9,2CB9;2CBB,2CBB;2CBD,2CBD;2CBF,2CBF;2CC1,2CC1;2CC3,2CC3;2CC5,2CC5;2CC7,2CC7;2CC9,2CC9;2CCB,2CCB;2CCD,2CCD;2CCF,2CCF;2CD1,2CD1;2CD3,2CD3;2CD5,2CD5;2CD7,2CD7;2CD9,2CD9;2CDB,2CDB;2CDD,2CDD;2CDF,2CDF;2CE1,2CE1;2CE3,2CE4;2CEC,2CEC;2CEE,2CEE;2CF3,2CF3;2D00,2D25;2D27,2D27;2D2D,2D2D;A641,A641;A643,A643;A645,A645;A647,A647;A649,A649;A64B,A64B;A64D,A64D;A64F,A64F;A651,A651;A653,A653;A655,A655;A657,A657;A659,A659;A65B,A65B;A65D,A65D;A65F,A65F;A661,A661;A663,A663;A665,A665;A667,A667;A669,A669;A66B,A66B;A66D,A66D;A681,A681;A683,A683;A685,A685;A687,A687;A689,A689;A68B,A68B;A68D,A68D;A68F,A68F;A691,A691;A693,A693;A695,A695;A697,A697;A699,A699;A69B,A69D;A723,A723;A725,A725;A727,A727;A729,A729;A72B,A72B;A72D,A72D;A72F,A731;A733,A733;A735,A735;A737,A737;A739,A739;A73B,A73B;A73D,A73D;A73F,A73F;A741,A741;A743,A743;A745,A745;A747,A747;A749,A749;A74B,A74B;A74D,A74D;A74F,A74F;A751,A751;A753,A753;A755,A755;A757,A757;A759,A759;A75B,A75B;A75D,A75D;A75F,A75F;A761,A761;A763,A763;A765,A765;A767,A767;A769,A769;A76B,A76B;A76D,A76D;A76F,A778;A77A,A77A;A77C,A77C;A77F,A77F;A781,A781;A783,A783;A785,A785;A787,A787;A78C,A78C;A78E,A78E;A791,A791;A793,A795;A797,A797;A799,A799;A79B,A79B;A79D,A79D;A79F,A79F;A7A1,A7A1;A7A3,A7A3;A7A5,A7A5;A7A7,A7A7;A7A9,A7A9;A7AF,A7AF;A7B5,A7B5;A7B7,A7B7;A7B9,A7B9;A7BB,A7BB;A7BD,A7BD;A7BF,A7BF;A7C1,A7C1;A7C3,A7C3;A7C8,A7C8;A7CA,A7CA;A7CD,A7CD;A7CF,A7CF;A7D1,A7D1;A7D3,A7D3;A7D5,A7D5;A7D7,A7D7;A7D9,A7D9;A7DB,A7DB;A7F1,A7F4;A7F6,A7F6;A7F8,A7FA;AB30,AB5A;AB5C,AB69;AB70,ABBF;FB00,FB06;FB13,FB17;FF41,FF5A;10428,1044F;104D8,104FB;10597,105A1;105A3,105B1;105B3,105B9;105BB,105BC;10780,10780;10783,10785;10787,107B0;107B2,107BA;10CC0,10CF2;10D70,10D85;118C0,118DF;16E60,16E7F;16EBB,16ED3;1D41A,1D433;1D44E,1D454;1D456,1D467;1D482,1D49B;1D4B6,1D4B9;1D4BB,1D4BB;1D4BD,1D4C3;1D4C5,1D4CF;1D4EA,1D503;1D51E,1D537;1D552,1D56B;1D586,1D59F;1D5BA,1D5D3;1D5EE,1D607;1D622,1D63B;1D656,1D66F;1D68A,1D6A5;1D6C2,1D6DA;1D6DC,1D6E1;1D6FC,1D714;1D716,1D71B;1D736,1D74E;1D750,1D755;1D770,1D788;1D78A,1D78F;1D7AA,1D7C2;1D7C4,1D7C9;1D7CB,1D7CB;1DF00,1DF09;1DF0B,1DF1E;1DF25,1DF2A;1E030,1E06D;1E922,1E943;=Math;2B,2B;3C,3E;5E,5E;7C,7C;7E,7E;AC,AC;B1,B1;D7,D7;F7,F7;3D0,3D2;3D5,3D5;3F0,3F1;3F4,3F6;606,608;2016,2016;2032,2034;2040,2040;2044,2044;2052,2052;2061,2064;207A,207E;208A,208E;20D0,20DC;20E1,20E1;20E5,20E6;20EB,20EF;2102,2102;2107,2107;210A,2113;2115,2115;2118,211D;2124,2124;2128,2129;212C,212D;212F,2131;2133,2138;213C,2149;214B,214B;2190,21A7;21A9,21AE;21B0,21B1;21B6,21B7;21BC,21DB;21DD,21DD;21E4,21E5;21F4,22FF;2308,230B;2320,2321;237C,237C;239B,23B5;23B7,23B7;23D0,23D0;23DC,23E2;25A0,25A1;25AE,25B7;25BC,25C1;25C6,25C7;25CA,25CB;25CF,25D3;25E2,25E2;25E4,25E4;25E7,25EC;25F8,25FF;2605,2606;2640,2640;2642,2642;2660,2663;266D,266F;27C0,27FF;2900,2AFF;2B30,2B44;2B47,2B4C;FB29,FB29;FE61,FE66;FE68,FE68;FF0B,FF0B;FF1C,FF1E;FF3C,FF3C;FF3E,FF3E;FF5C,FF5C;FF5E,FF5E;FFE2,FFE2;FFE9,FFEC;10D8E,10D8F;1CEF0,1CEF0;1D400,1D454;1D456,1D49C;1D49E,1D49F;1D4A2,1D4A2;1D4A5,1D4A6;1D4A9,1D4AC;1D4AE,1D4B9;1D4BB,1D4BB;1D4BD,1D4C3;1D4C5,1D505;1D507,1D50A;1D50D,1D514;1D516,1D51C;1D51E,1D539;1D53B,1D53E;1D540,1D544;1D546,1D546;1D54A,1D550;1D552,1D6A5;1D6A8,1D7CB;1D7CE,1D7FF;1EE00,1EE03;1EE05,1EE1F;1EE21,1EE22;1EE24,1EE24;1EE27,1EE27;1EE29,1EE32;1EE34,1EE37;1EE39,1EE39;1EE3B,1EE3B;1EE42,1EE42;1EE47,1EE47;1EE49,1EE49;1EE4B,1EE4B;1EE4D,1EE4F;1EE51,1EE52;1EE54,1EE54;1EE57,1EE57;1EE59,1EE59;1EE5B,1EE5B;1EE5D,1EE5D;1EE5F,1EE5F;1EE61,1EE62;1EE64,1EE64;1EE67,1EE6A;1EE6C,1EE72;1EE74,1EE77;1EE79,1EE7C;1EE7E,1EE7E;1EE80,1EE89;1EE8B,1EE9B;1EEA1,1EEA3;1EEA5,1EEA9;1EEAB,1EEBB;1EEF0,1EEF1;1F8D0,1F8D8;=Modifier_Combining_Mark;654,655;658,658;6DC,6DC;6E3,6E3;6E7,6E8;8CA,8CB;8CD,8CF;8D3,8D3;8F3,8F3;=Noncharacter_Code_Point;FDD0,FDEF;FFFE,FFFF;1FFFE,1FFFF;2FFFE,2FFFF;3FFFE,3FFFF;4FFFE,4FFFF;5FFFE,5FFFF;6FFFE,6FFFF;7FFFE,7FFFF;8FFFE,8FFFF;9FFFE,9FFFF;AFFFE,AFFFF;BFFFE,BFFFF;CFFFE,CFFFF;DFFFE,DFFFF;EFFFE,EFFFF;FFFFE,FFFFF;10FFFE,10FFFF;=Other_Alphabetic;=Other_Default_Ignorable_Code_Point;=Other_Grapheme_Extend;=Other_ID_Continue;=Other_ID_Start;=Other_Lowercase;=Other_Math;=Other_Uppercase;=Pattern_Syntax;21,2F;3A,40;5B,5E;60,60;7B,7E;A1,A7;A9,A9;AB,AC;AE,AE;B0,B1;B6,B6;BB,BB;BF,BF;D7,D7;F7,F7;2010,2027;2030,203E;2041,2053;2055,205E;2190,245F;2500,2775;2794,2BFF;2E00,2E7F;3001,3003;3008,3020;3030,3030;FD3E,FD3F;FE45,FE46;=Pattern_White_Space;9,D;20,20;85,85;200E,200F;2028,2029;=Prepended_Concatenation_Mark;600,605;6DD,6DD;70F,70F;890,891;8E2,8E2;110BD,110BD;110CD,110CD;=Quotation_Mark;22,22;27,27;AB,AB;BB,BB;2018,201F;2039,203A;2E42,2E42;300C,300F;301D,301F;FE41,FE44;FF02,FF02;FF07,FF07;FF62,FF63;=Radical;2E80,2E99;2E9B,2EF3;2F00,2FD5;=Regional_Indicator;1F1E6,1F1FF;=Sentence_Terminal;21,21;2E,2E;3F,3F;589,589;61D,61F;6D4,6D4;700,702;7F9,7F9;837,837;839,839;83D,83E;964,965;104A,104B;1362,1362;1367,1368;166E,166E;1735,1736;17D4,17D5;1803,1803;1809,1809;1944,1945;1AA8,1AAB;1B4E,1B4F;1B5A,1B5B;1B5E,1B5F;1B7D,1B7F;1C3B,1C3C;1C7E,1C7F;2024,2024;203C,203D;2047,2049;2CF9,2CFB;2E2E,2E2E;2E3C,2E3C;2E53,2E54;3002,3002;A4FF,A4FF;A60E,A60F;A6F3,A6F3;A6F7,A6F7;A876,A877;A8CE,A8CF;A92F,A92F;A9C8,A9C9;AA5D,AA5F;AAF0,AAF1;ABEB,ABEB;FE12,FE12;FE15,FE16;FE52,FE52;FE56,FE57;FF01,FF01;FF0E,FF0E;FF1F,FF1F;FF61,FF61;10A56,10A57;10F55,10F59;10F86,10F89;11047,11048;110BE,110C1;11141,11143;111C5,111C6;111CD,111CD;111DE,111DF;11238,11239;1123B,1123C;112A9,112A9;113D4,113D5;1144B,1144C;115C2,115C3;115C9,115D7;11641,11642;1173C,1173E;11944,11944;11946,11946;11A42,11A43;11A9B,11A9C;11C41,11C42;11EF7,11EF8;11F43,11F44;16A6E,16A6F;16AF5,16AF5;16B37,16B38;16B44,16B44;16D6E,16D6F;16E98,16E98;1BC9F,1BC9F;1DA88,1DA88;=Soft_Dotted;69,6A;12F,12F;249,249;268,268;29D,29D;2B2,2B2;3F3,3F3;456,456;458,458;1D62,1D62;1D96,1D96;1DA4,1DA4;1DA8,1DA8;1E2D,1E2D;1ECB,1ECB;2071,2071;2148,2149;2C7C,2C7C;1D422,1D423;1D456,1D457;1D48A,1D48B;1D4BE,1D4BF;1D4F2,1D4F3;1D526,1D527;1D55A,1D55B;1D58E,1D58F;1D5C2,1D5C3;1D5F6,1D5F7;1D62A,1D62B;1D65E,1D65F;1D692,1D693;1DF1A,1DF1A;1E04C,1E04D;1E068,1E068;=Terminal_Punctuation;21,21;2C,2C;2E,2E;3A,3B;3F,3F;37E,37E;387,387;589,589;5C3,5C3;60C,60C;61B,61B;61D,61F;6D4,6D4;700,70A;70C,70C;7F8,7F9;830,835;837,83E;85E,85E;964,965;E5A,E5B;F08,F08;F0D,F12;104A,104B;1361,1368;166E,166E;16EB,16ED;1735,1736;17D4,17D6;17DA,17DA;1802,1805;1808,1809;1944,1945;1AA8,1AAB;1B4E,1B4F;1B5A,1B5B;1B5D,1B5F;1B7D,1B7F;1C3B,1C3F;1C7E,1C7F;2024,2024;203C,203D;2047,2049;2CF9,2CFB;2E2E,2E2E;2E3C,2E3C;2E41,2E41;2E4C,2E4C;2E4E,2E4F;2E53,2E54;3001,3002;A4FE,A4FF;A60D,A60F;A6F3,A6F7;A876,A877;A8CE,A8CF;A92F,A92F;A9C7,A9C9;AA5D,AA5F;AADF,AADF;AAF0,AAF1;ABEB,ABEB;FE12,FE12;FE15,FE16;FE50,FE52;FE54,FE57;FF01,FF01;FF0C,FF0C;FF0E,FF0E;FF1A,FF1B;FF1F,FF1F;FF61,FF61;FF64,FF64;1039F,1039F;103D0,103D0;10857,10857;1091F,1091F;10A56,10A57;10AF0,10AF5;10B3A,10B3F;10B99,10B9C;10F55,10F59;10F86,10F89;11047,1104D;110BE,110C1;11141,11143;111C5,111C6;111CD,111CD;111DE,111DF;11238,1123C;112A9,112A9;113D4,113D5;1144B,1144D;1145A,1145B;115C2,115C5;115C9,115D7;11641,11642;1173C,1173E;11944,11944;11946,11946;11A42,11A43;11A9B,11A9C;11AA1,11AA2;11C41,11C43;11C71,11C71;11EF7,11EF8;11F43,11F44;12470,12474;16A6E,16A6F;16AF5,16AF5;16B37,16B39;16B44,16B44;16D6E,16D6F;16E97,16E98;1BC9F,1BC9F;1DA87,1DA8A;=Unified_Ideograph;3400,4DBF;4E00,9FFF;FA0E,FA0F;FA11,FA11;FA13,FA14;FA1F,FA1F;FA21,FA21;FA23,FA24;FA27,FA29;20000,2A6DF;2A700,2B81D;2B820,2CEAD;2CEB0,2EBE0;2EBF0,2EE5D;30000,3134A;31350,33479;=Uppercase;41,5A;C0,D6;D8,DE;100,100;102,102;104,104;106,106;108,108;10A,10A;10C,10C;10E,10E;110,110;112,112;114,114;116,116;118,118;11A,11A;11C,11C;11E,11E;120,120;122,122;124,124;126,126;128,128;12A,12A;12C,12C;12E,12E;130,130;132,132;134,134;136,136;139,139;13B,13B;13D,13D;13F,13F;141,141;143,143;145,145;147,147;14A,14A;14C,14C;14E,14E;150,150;152,152;154,154;156,156;158,158;15A,15A;15C,15C;15E,15E;160,160;162,162;164,164;166,166;168,168;16A,16A;16C,16C;16E,16E;170,170;172,172;174,174;176,176;178,179;17B,17B;17D,17D;181,182;184,184;186,187;189,18B;18E,191;193,194;196,198;19C,19D;19F,1A0;1A2,1A2;1A4,1A4;1A6,1A7;1A9,1A9;1AC,1AC;1AE,1AF;1B1,1B3;1B5,1B5;1B7,1B8;1BC,1BC;1C4,1C4;1C7,1C7;1CA,1CA;1CD,1CD;1CF,1CF;1D1,1D1;1D3,1D3;1D5,1D5;1D7,1D7;1D9,1D9;1DB,1DB;1DE,1DE;1E0,1E0;1E2,1E2;1E4,1E4;1E6,1E6;1E8,1E8;1EA,1EA;1EC,1EC;1EE,1EE;1F1,1F1;1F4,1F4;1F6,1F8;1FA,1FA;1FC,1FC;1FE,1FE;200,200;202,202;204,204;206,206;208,208;20A,20A;20C,20C;20E,20E;210,210;212,212;214,214;216,216;218,218;21A,21A;21C,21C;21E,21E;220,220;222,222;224,224;226,226;228,228;22A,22A;22C,22C;22E,22E;230,230;232,232;23A,23B;23D,23E;241,241;243,246;248,248;24A,24A;24C,24C;24E,24E;370,370;372,372;376,376;37F,37F;386,386;388,38A;38C,38C;38E,38F;391,3A1;3A3,3AB;3CF,3CF;3D2,3D4;3D8,3D8;3DA,3DA;3DC,3DC;3DE,3DE;3E0,3E0;3E2,3E2;3E4,3E4;3E6,3E6;3E8,3E8;3EA,3EA;3EC,3EC;3EE,3EE;3F4,3F4;3F7,3F7;3F9,3FA;3FD,42F;460,460;462,462;464,464;466,466;468,468;46A,46A;46C,46C;46E,46E;470,470;472,472;474,474;476,476;478,478;47A,47A;47C,47C;47E,47E;480,480;48A,48A;48C,48C;48E,48E;490,490;492,492;494,494;496,496;498,498;49A,49A;49C,49C;49E,49E;4A0,4A0;4A2,4A2;4A4,4A4;4A6,4A6;4A8,4A8;4AA,4AA;4AC,4AC;4AE,4AE;4B0,4B0;4B2,4B2;4B4,4B4;4B6,4B6;4B8,4B8;4BA,4BA;4BC,4BC;4BE,4BE;4C0,4C1;4C3,4C3;4C5,4C5;4C7,4C7;4C9,4C9;4CB,4CB;4CD,4CD;4D0,4D0;4D2,4D2;4D4,4D4;4D6,4D6;4D8,4D8;4DA,4DA;4DC,4DC;4DE,4DE;4E0,4E0;4E2,4E2;4E4,4E4;4E6,4E6;4E8,4E8;4EA,4EA;4EC,4EC;4EE,4EE;4F0,4F0;4F2,4F2;4F4,4F4;4F6,4F6;4F8,4F8;4FA,4FA;4FC,4FC;4FE,4FE;500,500;502,502;504,504;506,506;508,508;50A,50A;50C,50C;50E,50E;510,510;512,512;514,514;516,516;518,518;51A,51A;51C,51C;51E,51E;520,520;522,522;524,524;526,526;528,528;52A,52A;52C,52C;52E,52E;531,556;10A0,10C5;10C7,10C7;10CD,10CD;13A0,13F5;1C89,1C89;1C90,1CBA;1CBD,1CBF;1E00,1E00;1E02,1E02;1E04,1E04;1E06,1E06;1E08,1E08;1E0A,1E0A;1E0C,1E0C;1E0E,1E0E;1E10,1E10;1E12,1E12;1E14,1E14;1E16,1E16;1E18,1E18;1E1A,1E1A;1E1C,1E1C;1E1E,1E1E;1E20,1E20;1E22,1E22;1E24,1E24;1E26,1E26;1E28,1E28;1E2A,1E2A;1E2C,1E2C;1E2E,1E2E;1E30,1E30;1E32,1E32;1E34,1E34;1E36,1E36;1E38,1E38;1E3A,1E3A;1E3C,1E3C;1E3E,1E3E;1E40,1E40;1E42,1E42;1E44,1E44;1E46,1E46;1E48,1E48;1E4A,1E4A;1E4C,1E4C;1E4E,1E4E;1E50,1E50;1E52,1E52;1E54,1E54;1E56,1E56;1E58,1E58;1E5A,1E5A;1E5C,1E5C;1E5E,1E5E;1E60,1E60;1E62,1E62;1E64,1E64;1E66,1E66;1E68,1E68;1E6A,1E6A;1E6C,1E6C;1E6E,1E6E;1E70,1E70;1E72,1E72;1E74,1E74;1E76,1E76;1E78,1E78;1E7A,1E7A;1E7C,1E7C;1E7E,1E7E;1E80,1E80;1E82,1E82;1E84,1E84;1E86,1E86;1E88,1E88;1E8A,1E8A;1E8C,1E8C;1E8E,1E8E;1E90,1E90;1E92,1E92;1E94,1E94;1E9E,1E9E;1EA0,1EA0;1EA2,1EA2;1EA4,1EA4;1EA6,1EA6;1EA8,1EA8;1EAA,1EAA;1EAC,1EAC;1EAE,1EAE;1EB0,1EB0;1EB2,1EB2;1EB4,1EB4;1EB6,1EB6;1EB8,1EB8;1EBA,1EBA;1EBC,1EBC;1EBE,1EBE;1EC0,1EC0;1EC2,1EC2;1EC4,1EC4;1EC6,1EC6;1EC8,1EC8;1ECA,1ECA;1ECC,1ECC;1ECE,1ECE;1ED0,1ED0;1ED2,1ED2;1ED4,1ED4;1ED6,1ED6;1ED8,1ED8;1EDA,1EDA;1EDC,1EDC;1EDE,1EDE;1EE0,1EE0;1EE2,1EE2;1EE4,1EE4;1EE6,1EE6;1EE8,1EE8;1EEA,1EEA;1EEC,1EEC;1EEE,1EEE;1EF0,1EF0;1EF2,1EF2;1EF4,1EF4;1EF6,1EF6;1EF8,1EF8;1EFA,1EFA;1EFC,1EFC;1EFE,1EFE;1F08,1F0F;1F18,1F1D;1F28,1F2F;1F38,1F3F;1F48,1F4D;1F59,1F59;1F5B,1F5B;1F5D,1F5D;1F5F,1F5F;1F68,1F6F;1FB8,1FBB;1FC8,1FCB;1FD8,1FDB;1FE8,1FEC;1FF8,1FFB;2102,2102;2107,2107;210B,210D;2110,2112;2115,2115;2119,211D;2124,2124;2126,2126;2128,2128;212A,212D;2130,2133;213E,213F;2145,2145;2160,216F;2183,2183;24B6,24CF;2C00,2C2F;2C60,2C60;2C62,2C64;2C67,2C67;2C69,2C69;2C6B,2C6B;2C6D,2C70;2C72,2C72;2C75,2C75;2C7E,2C80;2C82,2C82;2C84,2C84;2C86,2C86;2C88,2C88;2C8A,2C8A;2C8C,2C8C;2C8E,2C8E;2C90,2C90;2C92,2C92;2C94,2C94;2C96,2C96;2C98,2C98;2C9A,2C9A;2C9C,2C9C;2C9E,2C9E;2CA0,2CA0;2CA2,2CA2;2CA4,2CA4;2CA6,2CA6;2CA8,2CA8;2CAA,2CAA;2CAC,2CAC;2CAE,2CAE;2CB0,2CB0;2CB2,2CB2;2CB4,2CB4;2CB6,2CB6;2CB8,2CB8;2CBA,2CBA;2CBC,2CBC;2CBE,2CBE;2CC0,2CC0;2CC2,2CC2;2CC4,2CC4;2CC6,2CC6;2CC8,2CC8;2CCA,2CCA;2CCC,2CCC;2CCE,2CCE;2CD0,2CD0;2CD2,2CD2;2CD4,2CD4;2CD6,2CD6;2CD8,2CD8;2CDA,2CDA;2CDC,2CDC;2CDE,2CDE;2CE0,2CE0;2CE2,2CE2;2CEB,2CEB;2CED,2CED;2CF2,2CF2;A640,A640;A642,A642;A644,A644;A646,A646;A648,A648;A64A,A64A;A64C,A64C;A64E,A64E;A650,A650;A652,A652;A654,A654;A656,A656;A658,A658;A65A,A65A;A65C,A65C;A65E,A65E;A660,A660;A662,A662;A664,A664;A666,A666;A668,A668;A66A,A66A;A66C,A66C;A680,A680;A682,A682;A684,A684;A686,A686;A688,A688;A68A,A68A;A68C,A68C;A68E,A68E;A690,A690;A692,A692;A694,A694;A696,A696;A698,A698;A69A,A69A;A722,A722;A724,A724;A726,A726;A728,A728;A72A,A72A;A72C,A72C;A72E,A72E;A732,A732;A734,A734;A736,A736;A738,A738;A73A,A73A;A73C,A73C;A73E,A73E;A740,A740;A742,A742;A744,A744;A746,A746;A748,A748;A74A,A74A;A74C,A74C;A74E,A74E;A750,A750;A752,A752;A754,A754;A756,A756;A758,A758;A75A,A75A;A75C,A75C;A75E,A75E;A760,A760;A762,A762;A764,A764;A766,A766;A768,A768;A76A,A76A;A76C,A76C;A76E,A76E;A779,A779;A77B,A77B;A77D,A77E;A780,A780;A782,A782;A784,A784;A786,A786;A78B,A78B;A78D,A78D;A790,A790;A792,A792;A796,A796;A798,A798;A79A,A79A;A79C,A79C;A79E,A79E;A7A0,A7A0;A7A2,A7A2;A7A4,A7A4;A7A6,A7A6;A7A8,A7A8;A7AA,A7AE;A7B0,A7B4;A7B6,A7B6;A7B8,A7B8;A7BA,A7BA;A7BC,A7BC;A7BE,A7BE;A7C0,A7C0;A7C2,A7C2;A7C4,A7C7;A7C9,A7C9;A7CB,A7CC;A7CE,A7CE;A7D0,A7D0;A7D2,A7D2;A7D4,A7D4;A7D6,A7D6;A7D8,A7D8;A7DA,A7DA;A7DC,A7DC;A7F5,A7F5;FF21,FF3A;10400,10427;104B0,104D3;10570,1057A;1057C,1058A;1058C,10592;10594,10595;10C80,10CB2;10D50,10D65;118A0,118BF;16E40,16E5F;16EA0,16EB8;1D400,1D419;1D434,1D44D;1D468,1D481;1D49C,1D49C;1D49E,1D49F;1D4A2,1D4A2;1D4A5,1D4A6;1D4A9,1D4AC;1D4AE,1D4B5;1D4D0,1D4E9;1D504,1D505;1D507,1D50A;1D50D,1D514;1D516,1D51C;1D538,1D539;1D53B,1D53E;1D540,1D544;1D546,1D546;1D54A,1D550;1D56C,1D585;1D5A0,1D5B9;1D5D4,1D5ED;1D608,1D621;1D63C,1D655;1D670,1D689;1D6A8,1D6C0;1D6E2,1D6FA;1D71C,1D734;1D756,1D76E;1D790,1D7A8;1D7CA,1D7CA;1E900,1E921;1F130,1F149;1F150,1F169;1F170,1F189;=Variation_Selector;180B,180D;180F,180F;FE00,FE0F;E0100,E01EF;=White_Space;9,D;20,20;85,85;A0,A0;1680,1680;2000,200A;2028,2029;202F,202F;205F,205F;3000,3000;=XID_Continue;30,39;41,5A;5F,5F;61,7A;AA,AA;B5,B5;B7,B7;BA,BA;C0,D6;D8,F6;F8,2C1;2C6,2D1;2E0,2E4;2EC,2EC;2EE,2EE;300,374;376,377;37B,37D;37F,37F;386,38A;38C,38C;38E,3A1;3A3,3F5;3F7,481;483,487;48A,52F;531,556;559,559;560,588;591,5BD;5BF,5BF;5C1,5C2;5C4,5C5;5C7,5C7;5D0,5EA;5EF,5F2;610,61A;620,669;66E,6D3;6D5,6DC;6DF,6E8;6EA,6FC;6FF,6FF;710,74A;74D,7B1;7C0,7F5;7FA,7FA;7FD,7FD;800,82D;840,85B;860,86A;870,887;889,88F;897,8E1;8E3,963;966,96F;971,983;985,98C;98F,990;993,9A8;9AA,9B0;9B2,9B2;9B6,9B9;9BC,9C4;9C7,9C8;9CB,9CE;9D7,9D7;9DC,9DD;9DF,9E3;9E6,9F1;9FC,9FC;9FE,9FE;A01,A03;A05,A0A;A0F,A10;A13,A28;A2A,A30;A32,A33;A35,A36;A38,A39;A3C,A3C;A3E,A42;A47,A48;A4B,A4D;A51,A51;A59,A5C;A5E,A5E;A66,A75;A81,A83;A85,A8D;A8F,A91;A93,AA8;AAA,AB0;AB2,AB3;AB5,AB9;ABC,AC5;AC7,AC9;ACB,ACD;AD0,AD0;AE0,AE3;AE6,AEF;AF9,AFF;B01,B03;B05,B0C;B0F,B10;B13,B28;B2A,B30;B32,B33;B35,B39;B3C,B44;B47,B48;B4B,B4D;B55,B57;B5C,B5D;B5F,B63;B66,B6F;B71,B71;B82,B83;B85,B8A;B8E,B90;B92,B95;B99,B9A;B9C,B9C;B9E,B9F;BA3,BA4;BA8,BAA;BAE,BB9;BBE,BC2;BC6,BC8;BCA,BCD;BD0,BD0;BD7,BD7;BE6,BEF;C00,C0C;C0E,C10;C12,C28;C2A,C39;C3C,C44;C46,C48;C4A,C4D;C55,C56;C58,C5A;C5C,C5D;C60,C63;C66,C6F;C80,C83;C85,C8C;C8E,C90;C92,CA8;CAA,CB3;CB5,CB9;CBC,CC4;CC6,CC8;CCA,CCD;CD5,CD6;CDC,CDE;CE0,CE3;CE6,CEF;CF1,CF3;D00,D0C;D0E,D10;D12,D44;D46,D48;D4A,D4E;D54,D57;D5F,D63;D66,D6F;D7A,D7F;D81,D83;D85,D96;D9A,DB1;DB3,DBB;DBD,DBD;DC0,DC6;DCA,DCA;DCF,DD4;DD6,DD6;DD8,DDF;DE6,DEF;DF2,DF3;E01,E3A;E40,E4E;E50,E59;E81,E82;E84,E84;E86,E8A;E8C,EA3;EA5,EA5;EA7,EBD;EC0,EC4;EC6,EC6;EC8,ECE;ED0,ED9;EDC,EDF;F00,F00;F18,F19;F20,F29;F35,F35;F37,F37;F39,F39;F3E,F47;F49,F6C;F71,F84;F86,F97;F99,FBC;FC6,FC6;1000,1049;1050,109D;10A0,10C5;10C7,10C7;10CD,10CD;10D0,10FA;10FC,1248;124A,124D;1250,1256;1258,1258;125A,125D;1260,1288;128A,128D;1290,12B0;12B2,12B5;12B8,12BE;12C0,12C0;12C2,12C5;12C8,12D6;12D8,1310;1312,1315;1318,135A;135D,135F;1369,1371;1380,138F;13A0,13F5;13F8,13FD;1401,166C;166F,167F;1681,169A;16A0,16EA;16EE,16F8;1700,1715;171F,1734;1740,1753;1760,176C;176E,1770;1772,1773;1780,17D3;17D7,17D7;17DC,17DD;17E0,17E9;180B,180D;180F,1819;1820,1878;1880,18AA;18B0,18F5;1900,191E;1920,192B;1930,193B;1946,196D;1970,1974;1980,19AB;19B0,19C9;19D0,19DA;1A00,1A1B;1A20,1A5E;1A60,1A7C;1A7F,1A89;1A90,1A99;1AA7,1AA7;1AB0,1ABD;1ABF,1ADD;1AE0,1AEB;1B00,1B4C;1B50,1B59;1B6B,1B73;1B80,1BF3;1C00,1C37;1C40,1C49;1C4D,1C7D;1C80,1C8A;1C90,1CBA;1CBD,1CBF;1CD0,1CD2;1CD4,1CFA;1D00,1F15;1F18,1F1D;1F20,1F45;1F48,1F4D;1F50,1F57;1F59,1F59;1F5B,1F5B;1F5D,1F5D;1F5F,1F7D;1F80,1FB4;1FB6,1FBC;1FBE,1FBE;1FC2,1FC4;1FC6,1FCC;1FD0,1FD3;1FD6,1FDB;1FE0,1FEC;1FF2,1FF4;1FF6,1FFC;200C,200D;203F,2040;2054,2054;2071,2071;207F,207F;2090,209C;20D0,20DC;20E1,20E1;20E5,20F0;2102,2102;2107,2107;210A,2113;2115,2115;2118,211D;2124,2124;2126,2126;2128,2128;212A,2139;213C,213F;2145,2149;214E,214E;2160,2188;2C00,2CE4;2CEB,2CF3;2D00,2D25;2D27,2D27;2D2D,2D2D;2D30,2D67;2D6F,2D6F;2D7F,2D96;2DA0,2DA6;2DA8,2DAE;2DB0,2DB6;2DB8,2DBE;2DC0,2DC6;2DC8,2DCE;2DD0,2DD6;2DD8,2DDE;2DE0,2DFF;3005,3007;3021,302F;3031,3035;3038,303C;3041,3096;3099,309A;309D,309F;30A1,30FF;3105,312F;3131,318E;31A0,31BF;31F0,31FF;3400,4DBF;4E00,A48C;A4D0,A4FD;A500,A60C;A610,A62B;A640,A66F;A674,A67D;A67F,A6F1;A717,A71F;A722,A788;A78B,A7DC;A7F1,A827;A82C,A82C;A840,A873;A880,A8C5;A8D0,A8D9;A8E0,A8F7;A8FB,A8FB;A8FD,A92D;A930,A953;A960,A97C;A980,A9C0;A9CF,A9D9;A9E0,A9FE;AA00,AA36;AA40,AA4D;AA50,AA59;AA60,AA76;AA7A,AAC2;AADB,AADD;AAE0,AAEF;AAF2,AAF6;AB01,AB06;AB09,AB0E;AB11,AB16;AB20,AB26;AB28,AB2E;AB30,AB5A;AB5C,AB69;AB70,ABEA;ABEC,ABED;ABF0,ABF9;AC00,D7A3;D7B0,D7C6;D7CB,D7FB;F900,FA6D;FA70,FAD9;FB00,FB06;FB13,FB17;FB1D,FB28;FB2A,FB36;FB38,FB3C;FB3E,FB3E;FB40,FB41;FB43,FB44;FB46,FBB1;FBD3,FC5D;FC64,FD3D;FD50,FD8F;FD92,FDC7;FDF0,FDF9;FE00,FE0F;FE20,FE2F;FE33,FE34;FE4D,FE4F;FE71,FE71;FE73,FE73;FE77,FE77;FE79,FE79;FE7B,FE7B;FE7D,FE7D;FE7F,FEFC;FF10,FF19;FF21,FF3A;FF3F,FF3F;FF41,FF5A;FF65,FFBE;FFC2,FFC7;FFCA,FFCF;FFD2,FFD7;FFDA,FFDC;10000,1000B;1000D,10026;10028,1003A;1003C,1003D;1003F,1004D;10050,1005D;10080,100FA;10140,10174;101FD,101FD;10280,1029C;102A0,102D0;102E0,102E0;10300,1031F;1032D,1034A;10350,1037A;10380,1039D;103A0,103C3;103C8,103CF;103D1,103D5;10400,1049D;104A0,104A9;104B0,104D3;104D8,104FB;10500,10527;10530,10563;10570,1057A;1057C,1058A;1058C,10592;10594,10595;10597,105A1;105A3,105B1;105B3,105B9;105BB,105BC;105C0,105F3;10600,10736;10740,10755;10760,10767;10780,10785;10787,107B0;107B2,107BA;10800,10805;10808,10808;1080A,10835;10837,10838;1083C,1083C;1083F,10855;10860,10876;10880,1089E;108E0,108F2;108F4,108F5;10900,10915;10920,10939;10940,10959;10980,109B7;109BE,109BF;10A00,10A03;10A05,10A06;10A0C,10A13;10A15,10A17;10A19,10A35;10A38,10A3A;10A3F,10A3F;10A60,10A7C;10A80,10A9C;10AC0,10AC7;10AC9,10AE6;10B00,10B35;10B40,10B55;10B60,10B72;10B80,10B91;10C00,10C48;10C80,10CB2;10CC0,10CF2;10D00,10D27;10D30,10D39;10D40,10D65;10D69,10D6D;10D6F,10D85;10E80,10EA9;10EAB,10EAC;10EB0,10EB1;10EC2,10EC7;10EFA,10F1C;10F27,10F27;10F30,10F50;10F70,10F85;10FB0,10FC4;10FE0,10FF6;11000,11046;11066,11075;1107F,110BA;110C2,110C2;110D0,110E8;110F0,110F9;11100,11134;11136,1113F;11144,11147;11150,11173;11176,11176;11180,111C4;111C9,111CC;111CE,111DA;111DC,111DC;11200,11211;11213,11237;1123E,11241;11280,11286;11288,11288;1128A,1128D;1128F,1129D;1129F,112A8;112B0,112EA;112F0,112F9;11300,11303;11305,1130C;1130F,11310;11313,11328;1132A,11330;11332,11333;11335,11339;1133B,11344;11347,11348;1134B,1134D;11350,11350;11357,11357;1135D,11363;11366,1136C;11370,11374;11380,11389;1138B,1138B;1138E,1138E;11390,113B5;113B7,113C0;113C2,113C2;113C5,113C5;113C7,113CA;113CC,113D3;113E1,113E2;11400,1144A;11450,11459;1145E,11461;11480,114C5;114C7,114C7;114D0,114D9;11580,115B5;115B8,115C0;115D8,115DD;11600,11640;11644,11644;11650,11659;11680,116B8;116C0,116C9;116D0,116E3;11700,1171A;1171D,1172B;11730,11739;11740,11746;11800,1183A;118A0,118E9;118FF,11906;11909,11909;1190C,11913;11915,11916;11918,11935;11937,11938;1193B,11943;11950,11959;119A0,119A7;119AA,119D7;119DA,119E1;119E3,119E4;11A00,11A3E;11A47,11A47;11A50,11A99;11A9D,11A9D;11AB0,11AF8;11B60,11B67;11BC0,11BE0;11BF0,11BF9;11C00,11C08;11C0A,11C36;11C38,11C40;11C50,11C59;11C72,11C8F;11C92,11CA7;11CA9,11CB6;11D00,11D06;11D08,11D09;11D0B,11D36;11D3A,11D3A;11D3C,11D3D;11D3F,11D47;11D50,11D59;11D60,11D65;11D67,11D68;11D6A,11D8E;11D90,11D91;11D93,11D98;11DA0,11DA9;11DB0,11DDB;11DE0,11DE9;11EE0,11EF6;11F00,11F10;11F12,11F3A;11F3E,11F42;11F50,11F5A;11FB0,11FB0;12000,12399;12400,1246E;12480,12543;12F90,12FF0;13000,1342F;13440,13455;13460,143FA;14400,14646;16100,16139;16800,16A38;16A40,16A5E;16A60,16A69;16A70,16ABE;16AC0,16AC9;16AD0,16AED;16AF0,16AF4;16B00,16B36;16B40,16B43;16B50,16B59;16B63,16B77;16B7D,16B8F;16D40,16D6C;16D70,16D79;16E40,16E7F;16EA0,16EB8;16EBB,16ED3;16F00,16F4A;16F4F,16F87;16F8F,16F9F;16FE0,16FE1;16FE3,16FE4;16FF0,16FF6;17000,18CD5;18CFF,18D1E;18D80,18DF2;1AFF0,1AFF3;1AFF5,1AFFB;1AFFD,1AFFE;1B000,1B122;1B132,1B132;1B150,1B152;1B155,1B155;1B164,1B167;1B170,1B2FB;1BC00,1BC6A;1BC70,1BC7C;1BC80,1BC88;1BC90,1BC99;1BC9D,1BC9E;1CCF0,1CCF9;1CF00,1CF2D;1CF30,1CF46;1D165,1D169;1D16D,1D172;1D17B,1D182;1D185,1D18B;1D1AA,1D1AD;1D242,1D244;1D400,1D454;1D456,1D49C;1D49E,1D49F;1D4A2,1D4A2;1D4A5,1D4A6;1D4A9,1D4AC;1D4AE,1D4B9;1D4BB,1D4BB;1D4BD,1D4C3;1D4C5,1D505;1D507,1D50A;1D50D,1D514;1D516,1D51C;1D51E,1D539;1D53B,1D53E;1D540,1D544;1D546,1D546;1D54A,1D550;1D552,1D6A5;1D6A8,1D6C0;1D6C2,1D6DA;1D6DC,1D6FA;1D6FC,1D714;1D716,1D734;1D736,1D74E;1D750,1D76E;1D770,1D788;1D78A,1D7A8;1D7AA,1D7C2;1D7C4,1D7CB;1D7CE,1D7FF;1DA00,1DA36;1DA3B,1DA6C;1DA75,1DA75;1DA84,1DA84;1DA9B,1DA9F;1DAA1,1DAAF;1DF00,1DF1E;1DF25,1DF2A;1E000,1E006;1E008,1E018;1E01B,1E021;1E023,1E024;1E026,1E02A;1E030,1E06D;1E08F,1E08F;1E100,1E12C;1E130,1E13D;1E140,1E149;1E14E,1E14E;1E290,1E2AE;1E2C0,1E2F9;1E4D0,1E4F9;1E5D0,1E5FA;1E6C0,1E6DE;1E6E0,1E6F5;1E6FE,1E6FF;1E7E0,1E7E6;1E7E8,1E7EB;1E7ED,1E7EE;1E7F0,1E7FE;1E800,1E8C4;1E8D0,1E8D6;1E900,1E94B;1E950,1E959;1EE00,1EE03;1EE05,1EE1F;1EE21,1EE22;1EE24,1EE24;1EE27,1EE27;1EE29,1EE32;1EE34,1EE37;1EE39,1EE39;1EE3B,1EE3B;1EE42,1EE42;1EE47,1EE47;1EE49,1EE49;1EE4B,1EE4B;1EE4D,1EE4F;1EE51,1EE52;1EE54,1EE54;1EE57,1EE57;1EE59,1EE59;1EE5B,1EE5B;1EE5D,1EE5D;1EE5F,1EE5F;1EE61,1EE62;1EE64,1EE64;1EE67,1EE6A;1EE6C,1EE72;1EE74,1EE77;1EE79,1EE7C;1EE7E,1EE7E;1EE80,1EE89;1EE8B,1EE9B;1EEA1,1EEA3;1EEA5,1EEA9;1EEAB,1EEBB;1FBF0,1FBF9;20000,2A6DF;2A700,2B81D;2B820,2CEAD;2CEB0,2EBE0;2EBF0,2EE5D;2F800,2FA1D;30000,3134A;31350,33479;E0100,E01EF;=XID_Start;41,5A;61,7A;AA,AA;B5,B5;BA,BA;C0,D6;D8,F6;F8,2C1;2C6,2D1;2E0,2E4;2EC,2EC;2EE,2EE;370,374;376,377;37B,37D;37F,37F;386,386;388,38A;38C,38C;38E,3A1;3A3,3F5;3F7,481;48A,52F;531,556;559,559;560,588;5D0,5EA;5EF,5F2;620,64A;66E,66F;671,6D3;6D5,6D5;6E5,6E6;6EE,6EF;6FA,6FC;6FF,6FF;710,710;712,72F;74D,7A5;7B1,7B1;7CA,7EA;7F4,7F5;7FA,7FA;800,815;81A,81A;824,824;828,828;840,858;860,86A;870,887;889,88F;8A0,8C9;904,939;93D,93D;950,950;958,961;971,980;985,98C;98F,990;993,9A8;9AA,9B0;9B2,9B2;9B6,9B9;9BD,9BD;9CE,9CE;9DC,9DD;9DF,9E1;9F0,9F1;9FC,9FC;A05,A0A;A0F,A10;A13,A28;A2A,A30;A32,A33;A35,A36;A38,A39;A59,A5C;A5E,A5E;A72,A74;A85,A8D;A8F,A91;A93,AA8;AAA,AB0;AB2,AB3;AB5,AB9;ABD,ABD;AD0,AD0;AE0,AE1;AF9,AF9;B05,B0C;B0F,B10;B13,B28;B2A,B30;B32,B33;B35,B39;B3D,B3D;B5C,B5D;B5F,B61;B71,B71;B83,B83;B85,B8A;B8E,B90;B92,B95;B99,B9A;B9C,B9C;B9E,B9F;BA3,BA4;BA8,BAA;BAE,BB9;BD0,BD0;C05,C0C;C0E,C10;C12,C28;C2A,C39;C3D,C3D;C58,C5A;C5C,C5D;C60,C61;C80,C80;C85,C8C;C8E,C90;C92,CA8;CAA,CB3;CB5,CB9;CBD,CBD;CDC,CDE;CE0,CE1;CF1,CF2;D04,D0C;D0E,D10;D12,D3A;D3D,D3D;D4E,D4E;D54,D56;D5F,D61;D7A,D7F;D85,D96;D9A,DB1;DB3,DBB;DBD,DBD;DC0,DC6;E01,E30;E32,E32;E40,E46;E81,E82;E84,E84;E86,E8A;E8C,EA3;EA5,EA5;EA7,EB0;EB2,EB2;EBD,EBD;EC0,EC4;EC6,EC6;EDC,EDF;F00,F00;F40,F47;F49,F6C;F88,F8C;1000,102A;103F,103F;1050,1055;105A,105D;1061,1061;1065,1066;106E,1070;1075,1081;108E,108E;10A0,10C5;10C7,10C7;10CD,10CD;10D0,10FA;10FC,1248;124A,124D;1250,1256;1258,1258;125A,125D;1260,1288;128A,128D;1290,12B0;12B2,12B5;12B8,12BE;12C0,12C0;12C2,12C5;12C8,12D6;12D8,1310;1312,1315;1318,135A;1380,138F;13A0,13F5;13F8,13FD;1401,166C;166F,167F;1681,169A;16A0,16EA;16EE,16F8;1700,1711;171F,1731;1740,1751;1760,176C;176E,1770;1780,17B3;17D7,17D7;17DC,17DC;1820,1878;1880,18A8;18AA,18AA;18B0,18F5;1900,191E;1950,196D;1970,1974;1980,19AB;19B0,19C9;1A00,1A16;1A20,1A54;1AA7,1AA7;1B05,1B33;1B45,1B4C;1B83,1BA0;1BAE,1BAF;1BBA,1BE5;1C00,1C23;1C4D,1C4F;1C5A,1C7D;1C80,1C8A;1C90,1CBA;1CBD,1CBF;1CE9,1CEC;1CEE,1CF3;1CF5,1CF6;1CFA,1CFA;1D00,1DBF;1E00,1F15;1F18,1F1D;1F20,1F45;1F48,1F4D;1F50,1F57;1F59,1F59;1F5B,1F5B;1F5D,1F5D;1F5F,1F7D;1F80,1FB4;1FB6,1FBC;1FBE,1FBE;1FC2,1FC4;1FC6,1FCC;1FD0,1FD3;1FD6,1FDB;1FE0,1FEC;1FF2,1FF4;1FF6,1FFC;2071,2071;207F,207F;2090,209C;2102,2102;2107,2107;210A,2113;2115,2115;2118,211D;2124,2124;2126,2126;2128,2128;212A,2139;213C,213F;2145,2149;214E,214E;2160,2188;2C00,2CE4;2CEB,2CEE;2CF2,2CF3;2D00,2D25;2D27,2D27;2D2D,2D2D;2D30,2D67;2D6F,2D6F;2D80,2D96;2DA0,2DA6;2DA8,2DAE;2DB0,2DB6;2DB8,2DBE;2DC0,2DC6;2DC8,2DCE;2DD0,2DD6;2DD8,2DDE;3005,3007;3021,3029;3031,3035;3038,303C;3041,3096;309D,309F;30A1,30FA;30FC,30FF;3105,312F;3131,318E;31A0,31BF;31F0,31FF;3400,4DBF;4E00,A48C;A4D0,A4FD;A500,A60C;A610,A61F;A62A,A62B;A640,A66E;A67F,A69D;A6A0,A6EF;A717,A71F;A722,A788;A78B,A7DC;A7F1,A801;A803,A805;A807,A80A;A80C,A822;A840,A873;A882,A8B3;A8F2,A8F7;A8FB,A8FB;A8FD,A8FE;A90A,A925;A930,A946;A960,A97C;A984,A9B2;A9CF,A9CF;A9E0,A9E4;A9E6,A9EF;A9FA,A9FE;AA00,AA28;AA40,AA42;AA44,AA4B;AA60,AA76;AA7A,AA7A;AA7E,AAAF;AAB1,AAB1;AAB5,AAB6;AAB9,AABD;AAC0,AAC0;AAC2,AAC2;AADB,AADD;AAE0,AAEA;AAF2,AAF4;AB01,AB06;AB09,AB0E;AB11,AB16;AB20,AB26;AB28,AB2E;AB30,AB5A;AB5C,AB69;AB70,ABE2;AC00,D7A3;D7B0,D7C6;D7CB,D7FB;F900,FA6D;FA70,FAD9;FB00,FB06;FB13,FB17;FB1D,FB1D;FB1F,FB28;FB2A,FB36;FB38,FB3C;FB3E,FB3E;FB40,FB41;FB43,FB44;FB46,FBB1;FBD3,FC5D;FC64,FD3D;FD50,FD8F;FD92,FDC7;FDF0,FDF9;FE71,FE71;FE73,FE73;FE77,FE77;FE79,FE79;FE7B,FE7B;FE7D,FE7D;FE7F,FEFC;FF21,FF3A;FF41,FF5A;FF66,FF9D;FFA0,FFBE;FFC2,FFC7;FFCA,FFCF;FFD2,FFD7;FFDA,FFDC;10000,1000B;1000D,10026;10028,1003A;1003C,1003D;1003F,1004D;10050,1005D;10080,100FA;10140,10174;10280,1029C;102A0,102D0;10300,1031F;1032D,1034A;10350,10375;10380,1039D;103A0,103C3;103C8,103CF;103D1,103D5;10400,1049D;104B0,104D3;104D8,104FB;10500,10527;10530,10563;10570,1057A;1057C,1058A;1058C,10592;10594,10595;10597,105A1;105A3,105B1;105B3,105B9;105BB,105BC;105C0,105F3;10600,10736;10740,10755;10760,10767;10780,10785;10787,107B0;107B2,107BA;10800,10805;10808,10808;1080A,10835;10837,10838;1083C,1083C;1083F,10855;10860,10876;10880,1089E;108E0,108F2;108F4,108F5;10900,10915;10920,10939;10940,10959;10980,109B7;109BE,109BF;10A00,10A00;10A10,10A13;10A15,10A17;10A19,10A35;10A60,10A7C;10A80,10A9C;10AC0,10AC7;10AC9,10AE4;10B00,10B35;10B40,10B55;10B60,10B72;10B80,10B91;10C00,10C48;10C80,10CB2;10CC0,10CF2;10D00,10D23;10D4A,10D65;10D6F,10D85;10E80,10EA9;10EB0,10EB1;10EC2,10EC7;10F00,10F1C;10F27,10F27;10F30,10F45;10F70,10F81;10FB0,10FC4;10FE0,10FF6;11003,11037;11071,11072;11075,11075;11083,110AF;110D0,110E8;11103,11126;11144,11144;11147,11147;11150,11172;11176,11176;11183,111B2;111C1,111C4;111DA,111DA;111DC,111DC;11200,11211;11213,1122B;1123F,11240;11280,11286;11288,11288;1128A,1128D;1128F,1129D;1129F,112A8;112B0,112DE;11305,1130C;1130F,11310;11313,11328;1132A,11330;11332,11333;11335,11339;1133D,1133D;11350,11350;1135D,11361;11380,11389;1138B,1138B;1138E,1138E;11390,113B5;113B7,113B7;113D1,113D1;113D3,113D3;11400,11434;11447,1144A;1145F,11461;11480,114AF;114C4,114C5;114C7,114C7;11580,115AE;115D8,115DB;11600,1162F;11644,11644;11680,116AA;116B8,116B8;11700,1171A;11740,11746;11800,1182B;118A0,118DF;118FF,11906;11909,11909;1190C,11913;11915,11916;11918,1192F;1193F,1193F;11941,11941;119A0,119A7;119AA,119D0;119E1,119E1;119E3,119E3;11A00,11A00;11A0B,11A32;11A3A,11A3A;11A50,11A50;11A5C,11A89;11A9D,11A9D;11AB0,11AF8;11BC0,11BE0;11C00,11C08;11C0A,11C2E;11C40,11C40;11C72,11C8F;11D00,11D06;11D08,11D09;11D0B,11D30;11D46,11D46;11D60,11D65;11D67,11D68;11D6A,11D89;11D98,11D98;11DB0,11DDB;11EE0,11EF2;11F02,11F02;11F04,11F10;11F12,11F33;11FB0,11FB0;12000,12399;12400,1246E;12480,12543;12F90,12FF0;13000,1342F;13441,13446;13460,143FA;14400,14646;16100,1611D;16800,16A38;16A40,16A5E;16A70,16ABE;16AD0,16AED;16B00,16B2F;16B40,16B43;16B63,16B77;16B7D,16B8F;16D40,16D6C;16E40,16E7F;16EA0,16EB8;16EBB,16ED3;16F00,16F4A;16F50,16F50;16F93,16F9F;16FE0,16FE1;16FE3,16FE3;16FF2,16FF6;17000,18CD5;18CFF,18D1E;18D80,18DF2;1AFF0,1AFF3;1AFF5,1AFFB;1AFFD,1AFFE;1B000,1B122;1B132,1B132;1B150,1B152;1B155,1B155;1B164,1B167;1B170,1B2FB;1BC00,1BC6A;1BC70,1BC7C;1BC80,1BC88;1BC90,1BC99;1D400,1D454;1D456,1D49C;1D49E,1D49F;1D4A2,1D4A2;1D4A5,1D4A6;1D4A9,1D4AC;1D4AE,1D4B9;1D4BB,1D4BB;1D4BD,1D4C3;1D4C5,1D505;1D507,1D50A;1D50D,1D514;1D516,1D51C;1D51E,1D539;1D53B,1D53E;1D540,1D544;1D546,1D546;1D54A,1D550;1D552,1D6A5;1D6A8,1D6C0;1D6C2,1D6DA;1D6DC,1D6FA;1D6FC,1D714;1D716,1D734;1D736,1D74E;1D750,1D76E;1D770,1D788;1D78A,1D7A8;1D7AA,1D7C2;1D7C4,1D7CB;1DF00,1DF1E;1DF25,1DF2A;1E030,1E06D;1E100,1E12C;1E137,1E13D;1E14E,1E14E;1E290,1E2AD;1E2C0,1E2EB;1E4D0,1E4EB;1E5D0,1E5ED;1E5F0,1E5F0;1E6C0,1E6DE;1E6E0,1E6E2;1E6E4,1E6E5;1E6E7,1E6ED;1E6F0,1E6F4;1E6FE,1E6FF;1E7E0,1E7E6;1E7E8,1E7EB;1E7ED,1E7EE;1E7F0,1E7FE;1E800,1E8C4;1E900,1E943;1E94B,1E94B;1EE00,1EE03;1EE05,1EE1F;1EE21,1EE22;1EE24,1EE24;1EE27,1EE27;1EE29,1EE32;1EE34,1EE37;1EE39,1EE39;1EE3B,1EE3B;1EE42,1EE42;1EE47,1EE47;1EE49,1EE49;1EE4B,1EE4B;1EE4D,1EE4F;1EE51,1EE52;1EE54,1EE54;1EE57,1EE57;1EE59,1EE59;1EE5B,1EE5B;1EE5D,1EE5D;1EE5F,1EE5F;1EE61,1EE62;1EE64,1EE64;1EE67,1EE6A;1EE6C,1EE72;1EE74,1EE77;1EE79,1EE7C;1EE7E,1EE7E;1EE80,1EE89;1EE8B,1EE9B;1EEA1,1EEA3;1EEA5,1EEA9;1EEAB,1EEBB;20000,2A6DF;2A700,2B81D;2B820,2CEAD;2CEB0,2EBE0;2EBF0,2EE5D;2F800,2FA1D;30000,3134A;31350,33479"

/-- Simple case folding: a code point that folds together with others, and the whole class of code points that fold to one another, itself included. -/
def caseOrbitText : String :=
  "41,41 61;42,42 62;43,43 63;44,44 64;45,45 65;46,46 66;47,47 67;48,48 68;49,49 69;4A,4A 6A;4B,4B 6B 212A;4C,4C 6C;4D,4D 6D;4E,4E 6E;4F,4F 6F;50,50 70;51,51 71;52,52 72;53,53 73 17F;54,54 74;55,55 75;56,56 76;57,57 77;58,58 78;59,59 79;5A,5A 7A;61,41 61;62,42 62;63,43 63;64,44 64;65,45 65;66,46 66;67,47 67;68,48 68;69,49 69;6A,4A 6A;6B,4B 6B 212A;6C,4C 6C;6D,4D 6D;6E,4E 6E;6F,4F 6F;70,50 70;71,51 71;72,52 72;73,53 73 17F;74,54 74;75,55 75;76,56 76;77,57 77;78,58 78;79,59 79;7A,5A 7A;B5,B5 39C 3BC;C0,C0 E0;C1,C1 E1;C2,C2 E2;C3,C3 E3;C4,C4 E4;C5,C5 E5 212B;C6,C6 E6;C7,C7 E7;C8,C8 E8;C9,C9 E9;CA,CA EA;CB,CB EB;CC,CC EC;CD,CD ED;CE,CE EE;CF,CF EF;D0,D0 F0;D1,D1 F1;D2,D2 F2;D3,D3 F3;D4,D4 F4;D5,D5 F5;D6,D6 F6;D8,D8 F8;D9,D9 F9;DA,DA FA;DB,DB FB;DC,DC FC;DD,DD FD;DE,DE FE;DF,DF 1E9E;E0,C0 E0;E1,C1 E1;E2,C2 E2;E3,C3 E3;E4,C4 E4;E5,C5 E5 212B;E6,C6 E6;E7,C7 E7;E8,C8 E8;E9,C9 E9;EA,CA EA;EB,CB EB;EC,CC EC;ED,CD ED;EE,CE EE;EF,CF EF;F0,D0 F0;F1,D1 F1;F2,D2 F2;F3,D3 F3;F4,D4 F4;F5,D5 F5;F6,D6 F6;F8,D8 F8;F9,D9 F9;FA,DA FA;FB,DB FB;FC,DC FC;FD,DD FD;FE,DE FE;FF,FF 178;100,100 101;101,100 101;102,102 103;103,102 103;104,104 105;105,104 105;106,106 107;107,106 107;108,108 109;109,108 109;10A,10A 10B;10B,10A 10B;10C,10C 10D;10D,10C 10D;10E,10E 10F;10F,10E 10F;110,110 111;111,110 111;112,112 113;113,112 113;114,114 115;115,114 115;116,116 117;117,116 117;118,118 119;119,118 119;11A,11A 11B;11B,11A 11B;11C,11C 11D;11D,11C 11D;11E,11E 11F;11F,11E 11F;120,120 121;121,120 121;122,122 123;123,122 123;124,124 125;125,124 125;126,126 127;127,126 127;128,128 129;129,128 129;12A,12A 12B;12B,12A 12B;12C,12C 12D;12D,12C 12D;12E,12E 12F;12F,12E 12F;132,132 133;133,132 133;134,134 135;135,134 135;136,136 137;137,136 137;139,139 13A;13A,139 13A;13B,13B 13C;13C,13B 13C;13D,13D 13E;13E,13D 13E;13F,13F 140;140,13F 140;141,141 142;142,141 142;143,143 144;144,143 144;145,145 146;146,145 146;147,147 148;148,147 148;14A,14A 14B;14B,14A 14B;14C,14C 14D;14D,14C 14D;14E,14E 14F;14F,14E 14F;150,150 151;151,150 151;152,152 153;153,152 153;154,154 155;155,154 155;156,156 157;157,156 157;158,158 159;159,158 159;15A,15A 15B;15B,15A 15B;15C,15C 15D;15D,15C 15D;15E,15E 15F;15F,15E 15F;160,160 161;161,160 161;162,162 163;163,162 163;164,164 165;165,164 165;166,166 167;167,166 167;168,168 169;169,168 169;16A,16A 16B;16B,16A 16B;16C,16C 16D;16D,16C 16D;16E,16E 16F;16F,16E 16F;170,170 171;171,170 171;172,172 173;173,172 173;174,174 175;175,174 175;176,176 177;177,176 177;178,FF 178;179,179 17A;17A,179 17A;17B,17B 17C;17C,17B 17C;17D,17D 17E;17E,17D 17E;17F,53 73 17F;180,180 243;181,181 253;182,182 183;183,182 183;184,184 185;185,184 185;186,186 254;187,187 188;188,187 188;189,189 256;18A,18A 257;18B,18B 18C;18C,18B 18C;18E,18E 1DD;18F,18F 259;190,190 25B;191,191 192;192,191 192;193,193 260;194,194 263;195,195 1F6;196,196 269;197,197 268;198,198 199;199,198 199;19A,19A 23D;19B,19B A7DC;19C,19C 26F;19D,19D 272;19E,19E 220;19F,19F 275;1A0,1A0 1A1;1A1,1A0 1A1;1A2,1A2 1A3;1A3,1A2 1A3;1A4,1A4 1A5;1A5,1A4 1A5;1A6,1A6 280;1A7,1A7 1A8;1A8,1A7 1A8;1A9,1A9 283;1AC,1AC 1AD;1AD,1AC 1AD;1AE,1AE 288;1AF,1AF 1B0;1B0,1AF 1B0;1B1,1B1 28A;1B2,1B2 28B;1B3,1B3 1B4;1B4,1B3 1B4;1B5,1B5 1B6;1B6,1B5 1B6;1B7,1B7 292;1B8,1B8 1B9;1B9,1B8 1B9;1BC,1BC 1BD;1BD,1BC 1BD;1BF,1BF 1F7;1C4,1C4 1C5 1C6;1C5,1C4 1C5 1C6;1C6,1C4 1C5 1C6;1C7,1C7 1C8 1C9;1C8,1C7 1C8 1C9;1C9,1C7 1C8 1C9;1CA,1CA 1CB 1CC;1CB,1CA 1CB 1CC;1CC,1CA 1CB 1CC;1CD,1CD 1CE;1CE,1CD 1CE;1CF,1CF 1D0;1D0,1CF 1D0;1D1,1D1 1D2;1D2,1D1 1D2;1D3,1D3 1D4;1D4,1D3 1D4;1D5,1D5 1D6;1D6,1D5 1D6;1D7,1D7 1D8;1D8,1D7 1D8;1D9,1D9 1DA;1DA,1D9 1DA;1DB,1DB 1DC;1DC,1DB 1DC;1DD,18E 1DD;1DE,1DE 1DF;1DF,1DE 1DF;1E0,1E0 1E1;1E1,1E0 1E1;1E2,1E2 1E3;1E3,1E2 1E3;1E4,1E4 1E5;1E5,1E4 1E5;1E6,1E6 1E7;1E7,1E6 1E7;1E8,1E8 1E9;1E9,1E8 1E9;1EA,1EA 1EB;1EB,1EA 1EB;1EC,1EC 1ED;1ED,1EC 1ED;1EE,1EE 1EF;1EF,1EE 1EF;1F1,1F1 1F2 1F3;1F2,1F1 1F2 1F3;1F3,1F1 1F2 1F3;1F4,1F4 1F5;1F5,1F4 1F5;1F6,195 1F6;1F7,1BF 1F7;1F8,1F8 1F9;1F9,1F8 1F9;1FA,1FA 1FB;1FB,1FA 1FB;1FC,1FC 1FD;1FD,1FC 1FD;1FE,1FE 1FF;1FF,1FE 1FF;200,200 201;201,200 201;202,202 203;203,202 203;204,204 205;205,204 205;206,206 207;207,206 207;208,208 209;209,208 209;20A,20A 20B;20B,20A 20B;20C,20C 20D;20D,20C 20D;20E,20E 20F;20F,20E 20F;210,210 211;211,210 211;212,212 213;213,212 213;214,214 215;215,214 215;216,216 217;217,216 217;218,218 219;219,218 219;21A,21A 21B;21B,21A 21B;21C,21C 21D;21D,21C 21D;21E,21E 21F;21F,21E 21F;220,19E 220;222,222 223;223,222 223;224,224 225;225,224 225;226,226 227;227,226 227;228,228 229;229,228 229;22A,22A 22B;22B,22A 22B;22C,22C 22D;22D,22C 22D;22E,22E 22F;22F,22E 22F;230,230 231;231,230 231;232,232 233;233,232 233;23A,23A 2C65;23B,23B 23C;23C,23B 23C;23D,19A 23D;23E,23E 2C66;23F,23F 2C7E;240,240 2C7F;241,241 242;242,241 242;243,180 243;244,244 289;245,245 28C;246,246 247;247,246 247;248,248 249;249,248 249;24A,24A 24B;24B,24A 24B;24C,24C 24D;24D,24C 24D;24E,24E 24F;24F,24E 24F;250,250 2C6F;251,251 2C6D;252,252 2C70;253,181 253;254,186 254;256,189 256;257,18A 257;259,18F 259;25B,190 25B;25C,25C A7AB;260,193 260;261,261 A7AC;263,194 263;264,264 A7CB;265,265 A78D;266,266 A7AA;268,197 268;269,196 269;26A,26A A7AE;26B,26B 2C62;26C,26C A7AD;26F,19C 26F;271,271 2C6E;272,19D 272;275,19F 275;27D,27D 2C64;280,1A6 280;282,282 A7C5;283,1A9 283;287,287 A7B1;288,1AE 288;289,244 289;28A,1B1 28A;28B,1B2 28B;28C,245 28C;292,1B7 292;29D,29D A7B2;29E,29E A7B0;345,345 399 3B9 1FBE;370,370 371;371,370 371;372,372 373;373,372 373;376,376 377;377,376 377;37B,37B 3FD;37C,37C 3FE;37D,37D 3FF;37F,37F 3F3;386,386 3AC;388,388 3AD;389,389 3AE;38A,38A 3AF;38C,38C 3CC;38E,38E 3CD;38F,38F 3CE;391,391 3B1;392,392 3B2 3D0;393,393 3B3;394,394 3B4;395,395 3B5 3F5;396,396 3B6;397,397 3B7;398,398 3B8 3D1 3F4;399,345 399 3B9 1FBE;39A,39A 3BA 3F0;39B,39B 3BB;39C,B5 39C 3BC;39D,39D 3BD;39E,39E 3BE;39F,39F 3BF;3A0,3A0 3C0 3D6;3A1,3A1 3C1 3F1;3A3,3A3 3C2 3C3;3A4,3A4 3C4;3A5,3A5 3C5;3A6,3A6 3C6 3D5;3A7,3A7 3C7;3A8,3A8 3C8;3A9,3A9 3C9 2126;3AA,3AA 3CA;3AB,3AB 3CB;3AC,386 3AC;3AD,388 3AD;3AE,389 3AE;3AF,38A 3AF;3B1,391 3B1;3B2,392 3B2 3D0;3B3,393 3B3;3B4,394 3B4;3B5,395 3B5 3F5;3B6,396 3B6;3B7,397 3B7;3B8,398 3B8 3D1 3F4;3B9,345 399 3B9 1FBE;3BA,39A 3BA 3F0;3BB,39B 3BB;3BC,B5 39C 3BC;3BD,39D 3BD;3BE,39E 3BE;3BF,39F 3BF;3C0,3A0 3C0 3D6;3C1,3A1 3C1 3F1;3C2,3A3 3C2 3C3;3C3,3A3 3C2 3C3;3C4,3A4 3C4;3C5,3A5 3C5;3C6,3A6 3C6 3D5;3C7,3A7 3C7;3C8,3A8 3C8;3C9,3A9 3C9 2126;3CA,3AA 3CA;3CB,3AB 3CB;3CC,38C 3CC;3CD,38E 3CD;3CE,38F 3CE;3CF,3CF 3D7;3D0,392 3B2 3D0;3D1,398 3B8 3D1 3F4;3D5,3A6 3C6 3D5;3D6,3A0 3C0 3D6;3D7,3CF 3D7;3D8,3D8 3D9;3D9,3D8 3D9;3DA,3DA 3DB;3DB,3DA 3DB;3DC,3DC 3DD;3DD,3DC 3DD;3DE,3DE 3DF;3DF,3DE 3DF;3E0,3E0 3E1;3E1,3E0 3E1;3E2,3E2 3E3;3E3,3E2 3E3;3E4,3E4 3E5;3E5,3E4 3E5;3E6,3E6 3E7;3E7,3E6 3E7;3E8,3E8 3E9;3E9,3E8 3E9;3EA,3EA 3EB;3EB,3EA 3EB;3EC,3EC 3ED;3ED,3EC 3ED;3EE,3EE 3EF;3EF,3EE 3EF;3F0,39A 3BA 3F0;3F1,3A1 3C1 3F1;3F2,3F2 3F9;3F3,37F 3F3;3F4,398 3B8 3D1 3F4;3F5,395 3B5 3F5;3F7,3F7 3F8;3F8,3F7 3F8;3F9,3F2 3F9;3FA,3FA 3FB;3FB,3FA 3FB;3FD,37B 3FD;3FE,37C 3FE;3FF,37D 3FF;400,400 450;401,401 451;402,402 452;403,403 453;404,404 454;405,405 455;406,406 456;407,407 457;408,408 458;409,409 459;40A,40A 45A;40B,40B 45B;40C,40C 45C;40D,40D 45D;40E,40E 45E;40F,40F 45F;410,410 430;411,411 431;412,412 432 1C80;413,413 433;414,414 434 1C81;415,415 435;416,416 436;417,417 437;418,418 438;419,419 439;41A,41A 43A;41B,41B 43B;41C,41C 43C;41D,41D 43D;41E,41E 43E 1C82;41F,41F 43F;420,420 440;421,421 441 1C83;422,422 442 1C84 1C85;423,423 443;424,424 444;425,425 445;426,426 446;427,427 447;428,428 448;429,429 449;42A,42A 44A 1C86;42B,42B 44B;42C,42C 44C;42D,42D 44D;42E,42E 44E;42F,42F 44F;430,410 430;431,411 431;432,412 432 1C80;433,413 433;434,414 434 1C81;435,415 435;436,416 436;437,417 437;438,418 438;439,419 439;43A,41A 43A;43B,41B 43B;43C,41C 43C;43D,41D 43D;43E,41E 43E 1C82;43F,41F 43F;440,420 440;441,421 441 1C83;442,422 442 1C84 1C85;443,423 443;444,424 444;445,425 445;446,426 446;447,427 447;448,428 448;449,429 449;44A,42A 44A 1C86;44B,42B 44B;44C,42C 44C;44D,42D 44D;44E,42E 44E;44F,42F 44F;450,400 450;451,401 451;452,402 452;453,403 453;454,404 454;455,405 455;456,406 456;457,407 457;458,408 458;459,409 459;45A,40A 45A;45B,40B 45B;45C,40C 45C;45D,40D 45D;45E,40E 45E;45F,40F 45F;460,460 461;461,460 461;462,462 463 1C87;463,462 463 1C87;464,464 465;465,464 465;466,466 467;467,466 467;468,468 469;469,468 469;46A,46A 46B;46B,46A 46B;46C,46C 46D;46D,46C 46D;46E,46E 46F;46F,46E 46F;470,470 471;471,470 471;472,472 473;473,472 473;474,474 475;475,474 475;476,476 477;477,476 477;478,478 479;479,478 479;47A,47A 47B;47B,47A 47B;47C,47C 47D;47D,47C 47D;47E,47E 47F;47F,47E 47F;480,480 481;481,480 481;48A,48A 48B;48B,48A 48B;48C,48C 48D;48D,48C 48D;48E,48E 48F;48F,48E 48F;490,490 491;491,490 491;492,492 493;493,492 493;494,494 495;495,494 495;496,496 497;497,496 497;498,498 499;499,498 499;49A,49A 49B;49B,49A 49B;49C,49C 49D;49D,49C 49D;49E,49E 49F;49F,49E 49F;4A0,4A0 4A1;4A1,4A0 4A1;4A2,4A2 4A3;4A3,4A2 4A3;4A4,4A4 4A5;4A5,4A4 4A5;4A6,4A6 4A7;4A7,4A6 4A7;4A8,4A8 4A9;4A9,4A8 4A9;4AA,4AA 4AB;4AB,4AA 4AB;4AC,4AC 4AD;4AD,4AC 4AD;4AE,4AE 4AF;4AF,4AE 4AF;4B0,4B0 4B1;4B1,4B0 4B1;4B2,4B2 4B3;4B3,4B2 4B3;4B4,4B4 4B5;4B5,4B4 4B5;4B6,4B6 4B7;4B7,4B6 4B7;4B8,4B8 4B9;4B9,4B8 4B9;4BA,4BA 4BB;4BB,4BA 4BB;4BC,4BC 4BD;4BD,4BC 4BD;4BE,4BE 4BF;4BF,4BE 4BF;4C0,4C0 4CF;4C1,4C1 4C2;4C2,4C1 4C2;4C3,4C3 4C4;4C4,4C3 4C4;4C5,4C5 4C6;4C6,4C5 4C6;4C7,4C7 4C8;4C8,4C7 4C8;4C9,4C9 4CA;4CA,4C9 4CA;4CB,4CB 4CC;4CC,4CB 4CC;4CD,4CD 4CE;4CE,4CD 4CE;4CF,4C0 4CF;4D0,4D0 4D1;4D1,4D0 4D1;4D2,4D2 4D3;4D3,4D2 4D3;4D4,4D4 4D5;4D5,4D4 4D5;4D6,4D6 4D7;4D7,4D6 4D7;4D8,4D8 4D9;4D9,4D8 4D9;4DA,4DA 4DB;4DB,4DA 4DB;4DC,4DC 4DD;4DD,4DC 4DD;4DE,4DE 4DF;4DF,4DE 4DF;4E0,4E0 4E1;4E1,4E0 4E1;4E2,4E2 4E3;4E3,4E2 4E3;4E4,4E4 4E5;4E5,4E4 4E5;4E6,4E6 4E7;4E7,4E6 4E7;4E8,4E8 4E9;4E9,4E8 4E9;4EA,4EA 4EB;4EB,4EA 4EB;4EC,4EC 4ED;4ED,4EC 4ED;4EE,4EE 4EF;4EF,4EE 4EF;4F0,4F0 4F1;4F1,4F0 4F1;4F2,4F2 4F3;4F3,4F2 4F3;4F4,4F4 4F5;4F5,4F4 4F5;4F6,4F6 4F7;4F7,4F6 4F7;4F8,4F8 4F9;4F9,4F8 4F9;4FA,4FA 4FB;4FB,4FA 4FB;4FC,4FC 4FD;4FD,4FC 4FD;4FE,4FE 4FF;4FF,4FE 4FF;500,500 501;501,500 501;502,502 503;503,502 503;504,504 505;505,504 505;506,506 507;507,506 507;508,508 509;509,508 509;50A,50A 50B;50B,50A 50B;50C,50C 50D;50D,50C 50D;50E,50E 50F;50F,50E 50F;510,510 511;511,510 511;512,512 513;513,512 513;514,514 515;515,514 515;516,516 517;517,516 517;518,518 519;519,518 519;51A,51A 51B;51B,51A 51B;51C,51C 51D;51D,51C 51D;51E,51E 51F;51F,51E 51F;520,520 521;521,520 521;522,522 523;523,522 523;524,524 525;525,524 525;526,526 527;527,526 527;528,528 529;529,528 529;52A,52A 52B;52B,52A 52B;52C,52C 52D;52D,52C 52D;52E,52E 52F;52F,52E 52F;531,531 561;532,532 562;533,533 563;534,534 564;535,535 565;536,536 566;537,537 567;538,538 568;539,539 569;53A,53A 56A;53B,53B 56B;53C,53C 56C;53D,53D 56D;53E,53E 56E;53F,53F 56F;540,540 570;541,541 571;542,542 572;543,543 573;544,544 574;545,545 575;546,546 576;547,547 577;548,548 578;549,549 579;54A,54A 57A;54B,54B 57B;54C,54C 57C;54D,54D 57D;54E,54E 57E;54F,54F 57F;550,550 580;551,551 581;552,552 582;553,553 583;554,554 584;555,555 585;556,556 586;561,531 561;562,532 562;563,533 563;564,534 564;565,535 565;566,536 566;567,537 567;568,538 568;569,539 569;56A,53A 56A;56B,53B 56B;56C,53C 56C;56D,53D 56D;56E,53E 56E;56F,53F 56F;570,540 570;571,541 571;572,542 572;573,543 573;574,544 574;575,545 575;576,546 576;577,547 577;578,548 578;579,549 579;57A,54A 57A;57B,54B 57B;57C,54C 57C;57D,54D 57D;57E,54E 57E;57F,54F 57F;580,550 580;581,551 581;582,552 582;583,553 583;584,554 584;585,555 585;586,556 586;10A0,10A0 2D00;10A1,10A1 2D01;10A2,10A2 2D02;10A3,10A3 2D03;10A4,10A4 2D04;10A5,10A5 2D05;10A6,10A6 2D06;10A7,10A7 2D07;10A8,10A8 2D08;10A9,10A9 2D09;10AA,10AA 2D0A;10AB,10AB 2D0B;10AC,10AC 2D0C;10AD,10AD 2D0D;10AE,10AE 2D0E;10AF,10AF 2D0F;10B0,10B0 2D10;10B1,10B1 2D11;10B2,10B2 2D12;10B3,10B3 2D13;10B4,10B4 2D14;10B5,10B5 2D15;10B6,10B6 2D16;10B7,10B7 2D17;10B8,10B8 2D18;10B9,10B9 2D19;10BA,10BA 2D1A;10BB,10BB 2D1B;10BC,10BC 2D1C;10BD,10BD 2D1D;10BE,10BE 2D1E;10BF,10BF 2D1F;10C0,10C0 2D20;10C1,10C1 2D21;10C2,10C2 2D22;10C3,10C3 2D23;10C4,10C4 2D24;10C5,10C5 2D25;10C7,10C7 2D27;10CD,10CD 2D2D;10D0,10D0 1C90;10D1,10D1 1C91;10D2,10D2 1C92;10D3,10D3 1C93;10D4,10D4 1C94;10D5,10D5 1C95;10D6,10D6 1C96;10D7,10D7 1C97;10D8,10D8 1C98;10D9,10D9 1C99;10DA,10DA 1C9A;10DB,10DB 1C9B;10DC,10DC 1C9C;10DD,10DD 1C9D;10DE,10DE 1C9E;10DF,10DF 1C9F;10E0,10E0 1CA0;10E1,10E1 1CA1;10E2,10E2 1CA2;10E3,10E3 1CA3;10E4,10E4 1CA4;10E5,10E5 1CA5;10E6,10E6 1CA6;10E7,10E7 1CA7;10E8,10E8 1CA8;10E9,10E9 1CA9;10EA,10EA 1CAA;10EB,10EB 1CAB;10EC,10EC 1CAC;10ED,10ED 1CAD;10EE,10EE 1CAE;10EF,10EF 1CAF;10F0,10F0 1CB0;10F1,10F1 1CB1;10F2,10F2 1CB2;10F3,10F3 1CB3;10F4,10F4 1CB4;10F5,10F5 1CB5;10F6,10F6 1CB6;10F7,10F7 1CB7;10F8,10F8 1CB8;10F9,10F9 1CB9;10FA,10FA 1CBA;10FD,10FD 1CBD;10FE,10FE 1CBE;10FF,10FF 1CBF;13A0,13A0 AB70;13A1,13A1 AB71;13A2,13A2 AB72;13A3,13A3 AB73;13A4,13A4 AB74;13A5,13A5 AB75;13A6,13A6 AB76;13A7,13A7 AB77;13A8,13A8 AB78;13A9,13A9 AB79;13AA,13AA AB7A;13AB,13AB AB7B;13AC,13AC AB7C;13AD,13AD AB7D;13AE,13AE AB7E;13AF,13AF AB7F;13B0,13B0 AB80;13B1,13B1 AB81;13B2,13B2 AB82;13B3,13B3 AB83;13B4,13B4 AB84;13B5,13B5 AB85;13B6,13B6 AB86;13B7,13B7 AB87;13B8,13B8 AB88;13B9,13B9 AB89;13BA,13BA AB8A;13BB,13BB AB8B;13BC,13BC AB8C;13BD,13BD AB8D;13BE,13BE AB8E;13BF,13BF AB8F;13C0,13C0 AB90;13C1,13C1 AB91;13C2,13C2 AB92;13C3,13C3 AB93;13C4,13C4 AB94;13C5,13C5 AB95;13C6,13C6 AB96;13C7,13C7 AB97;13C8,13C8 AB98;13C9,13C9 AB99;13CA,13CA AB9A;13CB,13CB AB9B;13CC,13CC AB9C;13CD,13CD AB9D;13CE,13CE AB9E;13CF,13CF AB9F;13D0,13D0 ABA0;13D1,13D1 ABA1;13D2,13D2 ABA2;13D3,13D3 ABA3;13D4,13D4 ABA4;13D5,13D5 ABA5;13D6,13D6 ABA6;13D7,13D7 ABA7;13D8,13D8 ABA8;13D9,13D9 ABA9;13DA,13DA ABAA;13DB,13DB ABAB;13DC,13DC ABAC;13DD,13DD ABAD;13DE,13DE ABAE;13DF,13DF ABAF;13E0,13E0 ABB0;13E1,13E1 ABB1;13E2,13E2 ABB2;13E3,13E3 ABB3;13E4,13E4 ABB4;13E5,13E5 ABB5;13E6,13E6 ABB6;13E7,13E7 ABB7;13E8,13E8 ABB8;13E9,13E9 ABB9;13EA,13EA ABBA;13EB,13EB ABBB;13EC,13EC ABBC;13ED,13ED ABBD;13EE,13EE ABBE;13EF,13EF ABBF;13F0,13F0 13F8;13F1,13F1 13F9;13F2,13F2 13FA;13F3,13F3 13FB;13F4,13F4 13FC;13F5,13F5 13FD;13F8,13F0 13F8;13F9,13F1 13F9;13FA,13F2 13FA;13FB,13F3 13FB;13FC,13F4 13FC;13FD,13F5 13FD;1C80,412 432 1C80;1C81,414 434 1C81;1C82,41E 43E 1C82;1C83,421 441 1C83;1C84,422 442 1C84 1C85;1C85,422 442 1C84 1C85;1C86,42A 44A 1C86;1C87,462 463 1C87;1C88,1C88 A64A A64B;1C89,1C89 1C8A;1C8A,1C89 1C8A;1C90,10D0 1C90;1C91,10D1 1C91;1C92,10D2 1C92;1C93,10D3 1C93;1C94,10D4 1C94;1C95,10D5 1C95;1C96,10D6 1C96;1C97,10D7 1C97;1C98,10D8 1C98;1C99,10D9 1C99;1C9A,10DA 1C9A;1C9B,10DB 1C9B;1C9C,10DC 1C9C;1C9D,10DD 1C9D;1C9E,10DE 1C9E;1C9F,10DF 1C9F;1CA0,10E0 1CA0;1CA1,10E1 1CA1;1CA2,10E2 1CA2;1CA3,10E3 1CA3;1CA4,10E4 1CA4;1CA5,10E5 1CA5;1CA6,10E6 1CA6;1CA7,10E7 1CA7;1CA8,10E8 1CA8;1CA9,10E9 1CA9;1CAA,10EA 1CAA;1CAB,10EB 1CAB;1CAC,10EC 1CAC;1CAD,10ED 1CAD;1CAE,10EE 1CAE;1CAF,10EF 1CAF;1CB0,10F0 1CB0;1CB1,10F1 1CB1;1CB2,10F2 1CB2;1CB3,10F3 1CB3;1CB4,10F4 1CB4;1CB5,10F5 1CB5;1CB6,10F6 1CB6;1CB7,10F7 1CB7;1CB8,10F8 1CB8;1CB9,10F9 1CB9;1CBA,10FA 1CBA;1CBD,10FD 1CBD;1CBE,10FE 1CBE;1CBF,10FF 1CBF;1D79,1D79 A77D;1D7D,1D7D 2C63;1D8E,1D8E A7C6;1E00,1E00 1E01;1E01,1E00 1E01;1E02,1E02 1E03;1E03,1E02 1E03;1E04,1E04 1E05;1E05,1E04 1E05;1E06,1E06 1E07;1E07,1E06 1E07;1E08,1E08 1E09;1E09,1E08 1E09;1E0A,1E0A 1E0B;1E0B,1E0A 1E0B;1E0C,1E0C 1E0D;1E0D,1E0C 1E0D;1E0E,1E0E 1E0F;1E0F,1E0E 1E0F;1E10,1E10 1E11;1E11,1E10 1E11;1E12,1E12 1E13;1E13,1E12 1E13;1E14,1E14 1E15;1E15,1E14 1E15;1E16,1E16 1E17;1E17,1E16 1E17;1E18,1E18 1E19;1E19,1E18 1E19;1E1A,1E1A 1E1B;1E1B,1E1A 1E1B;1E1C,1E1C 1E1D;1E1D,1E1C 1E1D;1E1E,1E1E 1E1F;1E1F,1E1E 1E1F;1E20,1E20 1E21;1E21,1E20 1E21;1E22,1E22 1E23;1E23,1E22 1E23;1E24,1E24 1E25;1E25,1E24 1E25;1E26,1E26 1E27;1E27,1E26 1E27;1E28,1E28 1E29;1E29,1E28 1E29;1E2A,1E2A 1E2B;1E2B,1E2A 1E2B;1E2C,1E2C 1E2D;1E2D,1E2C 1E2D;1E2E,1E2E 1E2F;1E2F,1E2E 1E2F;1E30,1E30 1E31;1E31,1E30 1E31;1E32,1E32 1E33;1E33,1E32 1E33;1E34,1E34 1E35;1E35,1E34 1E35;1E36,1E36 1E37;1E37,1E36 1E37;1E38,1E38 1E39;1E39,1E38 1E39;1E3A,1E3A 1E3B;1E3B,1E3A 1E3B;1E3C,1E3C 1E3D;1E3D,1E3C 1E3D;1E3E,1E3E 1E3F;1E3F,1E3E 1E3F;1E40,1E40 1E41;1E41,1E40 1E41;1E42,1E42 1E43;1E43,1E42 1E43;1E44,1E44 1E45;1E45,1E44 1E45;1E46,1E46 1E47;1E47,1E46 1E47;1E48,1E48 1E49;1E49,1E48 1E49;1E4A,1E4A 1E4B;1E4B,1E4A 1E4B;1E4C,1E4C 1E4D;1E4D,1E4C 1E4D;1E4E,1E4E 1E4F;1E4F,1E4E 1E4F;1E50,1E50 1E51;1E51,1E50 1E51;1E52,1E52 1E53;1E53,1E52 1E53;1E54,1E54 1E55;1E55,1E54 1E55;1E56,1E56 1E57;1E57,1E56 1E57;1E58,1E58 1E59;1E59,1E58 1E59;1E5A,1E5A 1E5B;1E5B,1E5A 1E5B;1E5C,1E5C 1E5D;1E5D,1E5C 1E5D;1E5E,1E5E 1E5F;1E5F,1E5E 1E5F;1E60,1E60 1E61 1E9B;1E61,1E60 1E61 1E9B;1E62,1E62 1E63;1E63,1E62 1E63;1E64,1E64 1E65;1E65,1E64 1E65;1E66,1E66 1E67;1E67,1E66 1E67;1E68,1E68 1E69;1E69,1E68 1E69;1E6A,1E6A 1E6B;1E6B,1E6A 1E6B;1E6C,1E6C 1E6D;1E6D,1E6C 1E6D;1E6E,1E6E 1E6F;1E6F,1E6E 1E6F;1E70,1E70 1E71;1E71,1E70 1E71;1E72,1E72 1E73;1E73,1E72 1E73;1E74,1E74 1E75;1E75,1E74 1E75;1E76,1E76 1E77;1E77,1E76 1E77;1E78,1E78 1E79;1E79,1E78 1E79;1E7A,1E7A 1E7B;1E7B,1E7A 1E7B;1E7C,1E7C 1E7D;1E7D,1E7C 1E7D;1E7E,1E7E 1E7F;1E7F,1E7E 1E7F;1E80,1E80 1E81;1E81,1E80 1E81;1E82,1E82 1E83;1E83,1E82 1E83;1E84,1E84 1E85;1E85,1E84 1E85;1E86,1E86 1E87;1E87,1E86 1E87;1E88,1E88 1E89;1E89,1E88 1E89;1E8A,1E8A 1E8B;1E8B,1E8A 1E8B;1E8C,1E8C 1E8D;1E8D,1E8C 1E8D;1E8E,1E8E 1E8F;1E8F,1E8E 1E8F;1E90,1E90 1E91;1E91,1E90 1E91;1E92,1E92 1E93;1E93,1E92 1E93;1E94,1E94 1E95;1E95,1E94 1E95;1E9B,1E60 1E61 1E9B;1E9E,DF 1E9E;1EA0,1EA0 1EA1;1EA1,1EA0 1EA1;1EA2,1EA2 1EA3;1EA3,1EA2 1EA3;1EA4,1EA4 1EA5;1EA5,1EA4 1EA5;1EA6,1EA6 1EA7;1EA7,1EA6 1EA7;1EA8,1EA8 1EA9;1EA9,1EA8 1EA9;1EAA,1EAA 1EAB;1EAB,1EAA 1EAB;1EAC,1EAC 1EAD;1EAD,1EAC 1EAD;1EAE,1EAE 1EAF;1EAF,1EAE 1EAF;1EB0,1EB0 1EB1;1EB1,1EB0 1EB1;1EB2,1EB2 1EB3;1EB3,1EB2 1EB3;1EB4,1EB4 1EB5;1EB5,1EB4 1EB5;1EB6,1EB6 1EB7;1EB7,1EB6 1EB7;1EB8,1EB8 1EB9;1EB9,1EB8 1EB9;1EBA,1EBA 1EBB;1EBB,1EBA 1EBB;1EBC,1EBC 1EBD;1EBD,1EBC 1EBD;1EBE,1EBE 1EBF;1EBF,1EBE 1EBF;1EC0,1EC0 1EC1;1EC1,1EC0 1EC1;1EC2,1EC2 1EC3;1EC3,1EC2 1EC3;1EC4,1EC4 1EC5;1EC5,1EC4 1EC5;1EC6,1EC6 1EC7;1EC7,1EC6 1EC7;1EC8,1EC8 1EC9;1EC9,1EC8 1EC9;1ECA,1ECA 1ECB;1ECB,1ECA 1ECB;1ECC,1ECC 1ECD;1ECD,1ECC 1ECD;1ECE,1ECE 1ECF;1ECF,1ECE 1ECF;1ED0,1ED0 1ED1;1ED1,1ED0 1ED1;1ED2,1ED2 1ED3;1ED3,1ED2 1ED3;1ED4,1ED4 1ED5;1ED5,1ED4 1ED5;1ED6,1ED6 1ED7;1ED7,1ED6 1ED7;1ED8,1ED8 1ED9;1ED9,1ED8 1ED9;1EDA,1EDA 1EDB;1EDB,1EDA 1EDB;1EDC,1EDC 1EDD;1EDD,1EDC 1EDD;1EDE,1EDE 1EDF;1EDF,1EDE 1EDF;1EE0,1EE0 1EE1;1EE1,1EE0 1EE1;1EE2,1EE2 1EE3;1EE3,1EE2 1EE3;1EE4,1EE4 1EE5;1EE5,1EE4 1EE5;1EE6,1EE6 1EE7;1EE7,1EE6 1EE7;1EE8,1EE8 1EE9;1EE9,1EE8 1EE9;1EEA,1EEA 1EEB;1EEB,1EEA 1EEB;1EEC,1EEC 1EED;1EED,1EEC 1EED;1EEE,1EEE 1EEF;1EEF,1EEE 1EEF;1EF0,1EF0 1EF1;1EF1,1EF0 1EF1;1EF2,1EF2 1EF3;1EF3,1EF2 1EF3;1EF4,1EF4 1EF5;1EF5,1EF4 1EF5;1EF6,1EF6 1EF7;1EF7,1EF6 1EF7;1EF8,1EF8 1EF9;1EF9,1EF8 1EF9;1EFA,1EFA 1EFB;1EFB,1EFA 1EFB;1EFC,1EFC 1EFD;1EFD,1EFC 1EFD;1EFE,1EFE 1EFF;1EFF,1EFE 1EFF;1F00,1F00 1F08;1F01,1F01 1F09;1F02,1F02 1F0A;1F03,1F03 1F0B;1F04,1F04 1F0C;1F05,1F05 1F0D;1F06,1F06 1F0E;1F07,1F07 1F0F;1F08,1F00 1F08;1F09,1F01 1F09;1F0A,1F02 1F0A;1F0B,1F03 1F0B;1F0C,1F04 1F0C;1F0D,1F05 1F0D;1F0E,1F06 1F0E;1F0F,1F07 1F0F;1F10,1F10 1F18;1F11,1F11 1F19;1F12,1F12 1F1A;1F13,1F13 1F1B;1F14,1F14 1F1C;1F15,1F15 1F1D;1F18,1F10 1F18;1F19,1F11 1F19;1F1A,1F12 1F1A;1F1B,1F13 1F1B;1F1C,1F14 1F1C;1F1D,1F15 1F1D;1F20,1F20 1F28;1F21,1F21 1F29;1F22,1F22 1F2A;1F23,1F23 1F2B;1F24,1F24 1F2C;1F25,1F25 1F2D;1F26,1F26 1F2E;1F27,1F27 1F2F;1F28,1F20 1F28;1F29,1F21 1F29;1F2A,1F22 1F2A;1F2B,1F23 1F2B;1F2C,1F24 1F2C;1F2D,1F25 1F2D;1F2E,1F26 1F2E;1F2F,1F27 1F2F;1F30,1F30 1F38;1F31,1F31 1F39;1F32,1F32 1F3A;1F33,1F33 1F3B;1F34,1F34 1F3C;1F35,1F35 1F3D;1F36,1F36 1F3E;1F37,1F37 1F3F;1F38,1F30 1F38;1F39,1F31 1F39;1F3A,1F32 1F3A;1F3B,1F33 1F3B;1F3C,1F34 1F3C;1F3D,1F35 1F3D;1F3E,1F36 1F3E;1F3F,1F37 1F3F;1F40,1F40 1F48;1F41,1F41 1F49;1F42,1F42 1F4A;1F43,1F43 1F4B;1F44,1F44 1F4C;1F45,1F45 1F4D;1F48,1F40 1F48;1F49,1F41 1F49;1F4A,1F42 1F4A;1F4B,1F43 1F4B;1F4C,1F44 1F4C;1F4D,1F45 1F4D;1F51,1F51 1F59;1F53,1F53 1F5B;1F55,1F55 1F5D;1F57,1F57 1F5F;1F59,1F51 1F59;1F5B,1F53 1F5B;1F5D,1F55 1F5D;1F5F,1F57 1F5F;1F60,1F60 1F68;1F61,1F61 1F69;1F62,1F62 1F6A;1F63,1F63 1F6B;1F64,1F64 1F6C;1F65,1F65 1F6D;1F66,1F66 1F6E;1F67,1F67 1F6F;1F68,1F60 1F68;1F69,1F61 1F69;1F6A,1F62 1F6A;1F6B,1F63 1F6B;1F6C,1F64 1F6C;1F6D,1F65 1F6D;1F6E,1F66 1F6E;1F6F,1F67 1F6F;1F70,1F70 1FBA;1F71,1F71 1FBB;1F72,1F72 1FC8;1F73,1F73 1FC9;1F74,1F74 1FCA;1F75,1F75 1FCB;1F76,1F76 1FDA;1F77,1F77 1FDB;1F78,1F78 1FF8;1F79,1F79 1FF9;1F7A,1F7A 1FEA;1F7B,1F7B 1FEB;1F7C,1F7C 1FFA;1F7D,1F7D 1FFB;1F80,1F80 1F88;1F81,1F81 1F89;1F82,1F82 1F8A;1F83,1F83 1F8B;1F84,1F84 1F8C;1F85,1F85 1F8D;1F86,1F86 1F8E;1F87,1F87 1F8F;1F88,1F80 1F88;1F89,1F81 1F89;1F8A,1F82 1F8A;1F8B,1F83 1F8B;1F8C,1F84 1F8C;1F8D,1F85 1F8D;1F8E,1F86 1F8E;1F8F,1F87 1F8F;1F90,1F90 1F98;1F91,1F91 1F99;1F92,1F92 1F9A;1F93,1F93 1F9B;1F94,1F94 1F9C;1F95,1F95 1F9D;1F96,1F96 1F9E;1F97,1F97 1F9F;1F98,1F90 1F98;1F99,1F91 1F99;1F9A,1F92 1F9A;1F9B,1F93 1F9B;1F9C,1F94 1F9C;1F9D,1F95 1F9D;1F9E,1F96 1F9E;1F9F,1F97 1F9F;1FA0,1FA0 1FA8;1FA1,1FA1 1FA9;1FA2,1FA2 1FAA;1FA3,1FA3 1FAB;1FA4,1FA4 1FAC;1FA5,1FA5 1FAD;1FA6,1FA6 1FAE;1FA7,1FA7 1FAF;1FA8,1FA0 1FA8;1FA9,1FA1 1FA9;1FAA,1FA2 1FAA;1FAB,1FA3 1FAB;1FAC,1FA4 1FAC;1FAD,1FA5 1FAD;1FAE,1FA6 1FAE;1FAF,1FA7 1FAF;1FB0,1FB0 1FB8;1FB1,1FB1 1FB9;1FB3,1FB3 1FBC;1FB8,1FB0 1FB8;1FB9,1FB1 1FB9;1FBA,1F70 1FBA;1FBB,1F71 1FBB;1FBC,1FB3 1FBC;1FBE,345 399 3B9 1FBE;1FC3,1FC3 1FCC;1FC8,1F72 1FC8;1FC9,1F73 1FC9;1FCA,1F74 1FCA;1FCB,1F75 1FCB;1FCC,1FC3 1FCC;1FD0,1FD0 1FD8;1FD1,1FD1 1FD9;1FD8,1FD0 1FD8;1FD9,1FD1 1FD9;1FDA,1F76 1FDA;1FDB,1F77 1FDB;1FE0,1FE0 1FE8;1FE1,1FE1 1FE9;1FE5,1FE5 1FEC;1FE8,1FE0 1FE8;1FE9,1FE1 1FE9;1FEA,1F7A 1FEA;1FEB,1F7B 1FEB;1FEC,1FE5 1FEC;1FF3,1FF3 1FFC;1FF8,1F78 1FF8;1FF9,1F79 1FF9;1FFA,1F7C 1FFA;1FFB,1F7D 1FFB;1FFC,1FF3 1FFC;2126,3A9 3C9 2126;212A,4B 6B 212A;212B,C5 E5 212B;2132,2132 214E;214E,2132 214E;2160,2160 2170;2161,2161 2171;2162,2162 2172;2163,2163 2173;2164,2164 2174;2165,2165 2175;2166,2166 2176;2167,2167 2177;2168,2168 2178;2169,2169 2179;216A,216A 217A;216B,216B 217B;216C,216C 217C;216D,216D 217D;216E,216E 217E;216F,216F 217F;2170,2160 2170;2171,2161 2171;2172,2162 2172;2173,2163 2173;2174,2164 2174;2175,2165 2175;2176,2166 2176;2177,2167 2177;2178,2168 2178;2179,2169 2179;217A,216A 217A;217B,216B 217B;217C,216C 217C;217D,216D 217D;217E,216E 217E;217F,216F 217F;2183,2183 2184;2184,2183 2184;24B6,24B6 24D0;24B7,24B7 24D1;24B8,24B8 24D2;24B9,24B9 24D3;24BA,24BA 24D4;24BB,24BB 24D5;24BC,24BC 24D6;24BD,24BD 24D7;24BE,24BE 24D8;24BF,24BF 24D9;24C0,24C0 24DA;24C1,24C1 24DB;24C2,24C2 24DC;24C3,24C3 24DD;24C4,24C4 24DE;24C5,24C5 24DF;24C6,24C6 24E0;24C7,24C7 24E1;24C8,24C8 24E2;24C9,24C9 24E3;24CA,24CA 24E4;24CB,24CB 24E5;24CC,24CC 24E6;24CD,24CD 24E7;24CE,24CE 24E8;24CF,24CF 24E9;24D0,24B6 24D0;24D1,24B7 24D1;24D2,24B8 24D2;24D3,24B9 24D3;24D4,24BA 24D4;24D5,24BB 24D5;24D6,24BC 24D6;24D7,24BD 24D7;24D8,24BE 24D8;24D9,24BF 24D9;24DA,24C0 24DA;24DB,24C1 24DB;24DC,24C2 24DC;24DD,24C3 24DD;24DE,24C4 24DE;24DF,24C5 24DF;24E0,24C6 24E0;24E1,24C7 24E1;24E2,24C8 24E2;24E3,24C9 24E3;24E4,24CA 24E4;24E5,24CB 24E5;24E6,24CC 24E6;24E7,24CD 24E7;24E8,24CE 24E8;24E9,24CF 24E9;2C00,2C00 2C30;2C01,2C01 2C31;2C02,2C02 2C32;2C03,2C03 2C33;2C04,2C04 2C34;2C05,2C05 2C35;2C06,2C06 2C36;2C07,2C07 2C37;2C08,2C08 2C38;2C09,2C09 2C39;2C0A,2C0A 2C3A;2C0B,2C0B 2C3B;2C0C,2C0C 2C3C;2C0D,2C0D 2C3D;2C0E,2C0E 2C3E;2C0F,2C0F 2C3F;2C10,2C10 2C40;2C11,2C11 2C41;2C12,2C12 2C42;2C13,2C13 2C43;2C14,2C14 2C44;2C15,2C15 2C45;2C16,2C16 2C46;2C17,2C17 2C47;2C18,2C18 2C48;2C19,2C19 2C49;2C1A,2C1A 2C4A;2C1B,2C1B 2C4B;2C1C,2C1C 2C4C;2C1D,2C1D 2C4D;2C1E,2C1E 2C4E;2C1F,2C1F 2C4F;2C20,2C20 2C50;2C21,2C21 2C51;2C22,2C22 2C52;2C23,2C23 2C53;2C24,2C24 2C54;2C25,2C25 2C55;2C26,2C26 2C56;2C27,2C27 2C57;2C28,2C28 2C58;2C29,2C29 2C59;2C2A,2C2A 2C5A;2C2B,2C2B 2C5B;2C2C,2C2C 2C5C;2C2D,2C2D 2C5D;2C2E,2C2E 2C5E;2C2F,2C2F 2C5F;2C30,2C00 2C30;2C31,2C01 2C31;2C32,2C02 2C32;2C33,2C03 2C33;2C34,2C04 2C34;2C35,2C05 2C35;2C36,2C06 2C36;2C37,2C07 2C37;2C38,2C08 2C38;2C39,2C09 2C39;2C3A,2C0A 2C3A;2C3B,2C0B 2C3B;2C3C,2C0C 2C3C;2C3D,2C0D 2C3D;2C3E,2C0E 2C3E;2C3F,2C0F 2C3F;2C40,2C10 2C40;2C41,2C11 2C41;2C42,2C12 2C42;2C43,2C13 2C43;2C44,2C14 2C44;2C45,2C15 2C45;2C46,2C16 2C46;2C47,2C17 2C47;2C48,2C18 2C48;2C49,2C19 2C49;2C4A,2C1A 2C4A;2C4B,2C1B 2C4B;2C4C,2C1C 2C4C;2C4D,2C1D 2C4D;2C4E,2C1E 2C4E;2C4F,2C1F 2C4F;2C50,2C20 2C50;2C51,2C21 2C51;2C52,2C22 2C52;2C53,2C23 2C53;2C54,2C24 2C54;2C55,2C25 2C55;2C56,2C26 2C56;2C57,2C27 2C57;2C58,2C28 2C58;2C59,2C29 2C59;2C5A,2C2A 2C5A;2C5B,2C2B 2C5B;2C5C,2C2C 2C5C;2C5D,2C2D 2C5D;2C5E,2C2E 2C5E;2C5F,2C2F 2C5F;2C60,2C60 2C61;2C61,2C60 2C61;2C62,26B 2C62;2C63,1D7D 2C63;2C64,27D 2C64;2C65,23A 2C65;2C66,23E 2C66;2C67,2C67 2C68;2C68,2C67 2C68;2C69,2C69 2C6A;2C6A,2C69 2C6A;2C6B,2C6B 2C6C;2C6C,2C6B 2C6C;2C6D,251 2C6D;2C6E,271 2C6E;2C6F,250 2C6F;2C70,252 2C70;2C72,2C72 2C73;2C73,2C72 2C73;2C75,2C75 2C76;2C76,2C75 2C76;2C7E,23F 2C7E;2C7F,240 2C7F;2C80,2C80 2C81;2C81,2C80 2C81;2C82,2C82 2C83;2C83,2C82 2C83;2C84,2C84 2C85;2C85,2C84 2C85;2C86,2C86 2C87;2C87,2C86 2C87;2C88,2C88 2C89;2C89,2C88 2C89;2C8A,2C8A 2C8B;2C8B,2C8A 2C8B;2C8C,2C8C 2C8D;2C8D,2C8C 2C8D;2C8E,2C8E 2C8F;2C8F,2C8E 2C8F;2C90,2C90 2C91;2C91,2C90 2C91;2C92,2C92 2C93;2C93,2C92 2C93;2C94,2C94 2C95;2C95,2C94 2C95;2C96,2C96 2C97;2C97,2C96 2C97;2C98,2C98 2C99;2C99,2C98 2C99;2C9A,2C9A 2C9B;2C9B,2C9A 2C9B;2C9C,2C9C 2C9D;2C9D,2C9C 2C9D;2C9E,2C9E 2C9F;2C9F,2C9E 2C9F;2CA0,2CA0 2CA1;2CA1,2CA0 2CA1;2CA2,2CA2 2CA3;2CA3,2CA2 2CA3;2CA4,2CA4 2CA5;2CA5,2CA4 2CA5;2CA6,2CA6 2CA7;2CA7,2CA6 2CA7;2CA8,2CA8 2CA9;2CA9,2CA8 2CA9;2CAA,2CAA 2CAB;2CAB,2CAA 2CAB;2CAC,2CAC 2CAD;2CAD,2CAC 2CAD;2CAE,2CAE 2CAF;2CAF,2CAE 2CAF;2CB0,2CB0 2CB1;2CB1,2CB0 2CB1;2CB2,2CB2 2CB3;2CB3,2CB2 2CB3;2CB4,2CB4 2CB5;2CB5,2CB4 2CB5;2CB6,2CB6 2CB7;2CB7,2CB6 2CB7;2CB8,2CB8 2CB9;2CB9,2CB8 2CB9;2CBA,2CBA 2CBB;2CBB,2CBA 2CBB;2CBC,2CBC 2CBD;2CBD,2CBC 2CBD;2CBE,2CBE 2CBF;2CBF,2CBE 2CBF;2CC0,2CC0 2CC1;2CC1,2CC0 2CC1;2CC2,2CC2 2CC3;2CC3,2CC2 2CC3;2CC4,2CC4 2CC5;2CC5,2CC4 2CC5;2CC6,2CC6 2CC7;2CC7,2CC6 2CC7;2CC8,2CC8 2CC9;2CC9,2CC8 2CC9;2CCA,2CCA 2CCB;2CCB,2CCA 2CCB;2CCC,2CCC 2CCD;2CCD,2CCC 2CCD;2CCE,2CCE 2CCF;2CCF,2CCE 2CCF;2CD0,2CD0 2CD1;2CD1,2CD0 2CD1;2CD2,2CD2 2CD3;2CD3,2CD2 2CD3;2CD4,2CD4 2CD5;2CD5,2CD4 2CD5;2CD6,2CD6 2CD7;2CD7,2CD6 2CD7;2CD8,2CD8 2CD9;2CD9,2CD8 2CD9;2CDA,2CDA 2CDB;2CDB,2CDA 2CDB;2CDC,2CDC 2CDD;2CDD,2CDC 2CDD;2CDE,2CDE 2CDF;2CDF,2CDE 2CDF;2CE0,2CE0 2CE1;2CE1,2CE0 2CE1;2CE2,2CE2 2CE3;2CE3,2CE2 2CE3;2CEB,2CEB 2CEC;2CEC,2CEB 2CEC;2CED,2CED 2CEE;2CEE,2CED 2CEE;2CF2,2CF2 2CF3;2CF3,2CF2 2CF3;2D00,10A0 2D00;2D01,10A1 2D01;2D02,10A2 2D02;2D03,10A3 2D03;2D04,10A4 2D04;2D05,10A5 2D05;2D06,10A6 2D06;2D07,10A7 2D07;2D08,10A8 2D08;2D09,10A9 2D09;2D0A,10AA 2D0A;2D0B,10AB 2D0B;2D0C,10AC 2D0C;2D0D,10AD 2D0D;2D0E,10AE 2D0E;2D0F,10AF 2D0F;2D10,10B0 2D10;2D11,10B1 2D11;2D12,10B2 2D12;2D13,10B3 2D13;2D14,10B4 2D14;2D15,10B5 2D15;2D16,10B6 2D16;2D17,10B7 2D17;2D18,10B8 2D18;2D19,10B9 2D19;2D1A,10BA 2D1A;2D1B,10BB 2D1B;2D1C,10BC 2D1C;2D1D,10BD 2D1D;2D1E,10BE 2D1E;2D1F,10BF 2D1F;2D20,10C0 2D20;2D21,10C1 2D21;2D22,10C2 2D22;2D23,10C3 2D23;2D24,10C4 2D24;2D25,10C5 2D25;2D27,10C7 2D27;2D2D,10CD 2D2D;A640,A640 A641;A641,A640 A641;A642,A642 A643;A643,A642 A643;A644,A644 A645;A645,A644 A645;A646,A646 A647;A647,A646 A647;A648,A648 A649;A649,A648 A649;A64A,1C88 A64A A64B;A64B,1C88 A64A A64B;A64C,A64C A64D;A64D,A64C A64D;A64E,A64E A64F;A64F,A64E A64F;A650,A650 A651;A651,A650 A651;A652,A652 A653;A653,A652 A653;A654,A654 A655;A655,A654 A655;A656,A656 A657;A657,A656 A657;A658,A658 A659;A659,A658 A659;A65A,A65A A65B;A65B,A65A A65B;A65C,A65C A65D;A65D,A65C A65D;A65E,A65E A65F;A65F,A65E A65F;A660,A660 A661;A661,A660 A661;A662,A662 A663;A663,A662 A663;A664,A664 A665;A665,A664 A665;A666,A666 A667;A667,A666 A667;A668,A668 A669;A669,A668 A669;A66A,A66A A66B;A66B,A66A A66B;A66C,A66C A66D;A66D,A66C A66D;A680,A680 A681;A681,A680 A681;A682,A682 A683;A683,A682 A683;A684,A684 A685;A685,A684 A685;A686,A686 A687;A687,A686 A687;A688,A688 A689;A689,A688 A689;A68A,A68A A68B;A68B,A68A A68B;A68C,A68C A68D;A68D,A68C A68D;A68E,A68E A68F;A68F,A68E A68F;A690,A690 A691;A691,A690 A691;A692,A692 A693;A693,A692 A693;A694,A694 A695;A695,A694 A695;A696,A696 A697;A697,A696 A697;A698,A698 A699;A699,A698 A699;A69A,A69A A69B;A69B,A69A A69B;A722,A722 A723;A723,A722 A723;A724,A724 A725;A725,A724 A725;A726,A726 A727;A727,A726 A727;A728,A728 A729;A729,A728 A729;A72A,A72A A72B;A72B,A72A A72B;A72C,A72C A72D;A72D,A72C A72D;A72E,A72E A72F;A72F,A72E A72F;A732,A732 A733;A733,A732 A733;A734,A734 A735;A735,A734 A735;A736,A736 A737;A737,A736 A737;A738,A738 A739;A739,A738 A739;A73A,A73A A73B;A73B,A73A A73B;A73C,A73C A73D;A73D,A73C A73D;A73E,A73E A73F;A73F,A73E A73F;A740,A740 A741;A741,A740 A741;A742,A742 A743;A743,A742 A743;A744,A744 A745;A745,A744 A745;A746,A746 A747;A747,A746 A747;A748,A748 A749;A749,A748 A749;A74A,A74A A74B;A74B,A74A A74B;A74C,A74C A74D;A74D,A74C A74D;A74E,A74E A74F;A74F,A74E A74F;A750,A750 A751;A751,A750 A751;A752,A752 A753;A753,A752 A753;A754,A754 A755;A755,A754 A755;A756,A756 A757;A757,A756 A757;A758,A758 A759;A759,A758 A759;A75A,A75A A75B;A75B,A75A A75B;A75C,A75C A75D;A75D,A75C A75D;A75E,A75E A75F;A75F,A75E A75F;A760,A760 A761;A761,A760 A761;A762,A762 A763;A763,A762 A763;A764,A764 A765;A765,A764 A765;A766,A766 A767;A767,A766 A767;A768,A768 A769;A769,A768 A769;A76A,A76A A76B;A76B,A76A A76B;A76C,A76C A76D;A76D,A76C A76D;A76E,A76E A76F;A76F,A76E A76F;A779,A779 A77A;A77A,A779 A77A;A77B,A77B A77C;A77C,A77B A77C;A77D,1D79 A77D;A77E,A77E A77F;A77F,A77E A77F;A780,A780 A781;A781,A780 A781;A782,A782 A783;A783,A782 A783;A784,A784 A785;A785,A784 A785;A786,A786 A787;A787,A786 A787;A78B,A78B A78C;A78C,A78B A78C;A78D,265 A78D;A790,A790 A791;A791,A790 A791;A792,A792 A793;A793,A792 A793;A794,A794 A7C4;A796,A796 A797;A797,A796 A797;A798,A798 A799;A799,A798 A799;A79A,A79A A79B;A79B,A79A A79B;A79C,A79C A79D;A79D,A79C A79D;A79E,A79E A79F;A79F,A79E A79F;A7A0,A7A0 A7A1;A7A1,A7A0 A7A1;A7A2,A7A2 A7A3;A7A3,A7A2 A7A3;A7A4,A7A4 A7A5;A7A5,A7A4 A7A5;A7A6,A7A6 A7A7;A7A7,A7A6 A7A7;A7A8,A7A8 A7A9;A7A9,A7A8 A7A9;A7AA,266 A7AA;A7AB,25C A7AB;A7AC,261 A7AC;A7AD,26C A7AD;A7AE,26A A7AE;A7B0,29E A7B0;A7B1,287 A7B1;A7B2,29D A7B2;A7B3,A7B3 AB53;A7B4,A7B4 A7B5;A7B5,A7B4 A7B5;A7B6,A7B6 A7B7;A7B7,A7B6 A7B7;A7B8,A7B8 A7B9;A7B9,A7B8 A7B9;A7BA,A7BA A7BB;A7BB,A7BA A7BB;A7BC,A7BC A7BD;A7BD,A7BC A7BD;A7BE,A7BE A7BF;A7BF,A7BE A7BF;A7C0,A7C0 A7C1;A7C1,A7C0 A7C1;A7C2,A7C2 A7C3;A7C3,A7C2 A7C3;A7C4,A794 A7C4;A7C5,282 A7C5;A7C6,1D8E A7C6;A7C7,A7C7 A7C8;A7C8,A7C7 A7C8;A7C9,A7C9 A7CA;A7CA,A7C9 A7CA;A7CB,264 A7CB;A7CC,A7CC A7CD;A7CD,A7CC A7CD;A7CE,A7CE A7CF;A7CF,A7CE A7CF;A7D0,A7D0 A7D1;A7D1,A7D0 A7D1;A7D2,A7D2 A7D3;A7D3,A7D2 A7D3;A7D4,A7D4 A7D5;A7D5,A7D4 A7D5;A7D6,A7D6 A7D7;A7D7,A7D6 A7D7;A7D8,A7D8 A7D9;A7D9,A7D8 A7D9;A7DA,A7DA A7DB;A7DB,A7DA A7DB;A7DC,19B A7DC;A7F5,A7F5 A7F6;A7F6,A7F5 A7F6;AB53,A7B3 AB53;AB70,13A0 AB70;AB71,13A1 AB71;AB72,13A2 AB72;AB73,13A3 AB73;AB74,13A4 AB74;AB75,13A5 AB75;AB76,13A6 AB76;AB77,13A7 AB77;AB78,13A8 AB78;AB79,13A9 AB79;AB7A,13AA AB7A;AB7B,13AB AB7B;AB7C,13AC AB7C;AB7D,13AD AB7D;AB7E,13AE AB7E;AB7F,13AF AB7F;AB80,13B0 AB80;AB81,13B1 AB81;AB82,13B2 AB82;AB83,13B3 AB83;AB84,13B4 AB84;AB85,13B5 AB85;AB86,13B6 AB86;AB87,13B7 AB87;AB88,13B8 AB88;AB89,13B9 AB89;AB8A,13BA AB8A;AB8B,13BB AB8B;AB8C,13BC AB8C;AB8D,13BD AB8D;AB8E,13BE AB8E;AB8F,13BF AB8F;AB90,13C0 AB90;AB91,13C1 AB91;AB92,13C2 AB92;AB93,13C3 AB93;AB94,13C4 AB94;AB95,13C5 AB95;AB96,13C6 AB96;AB97,13C7 AB97;AB98,13C8 AB98;AB99,13C9 AB99;AB9A,13CA AB9A;AB9B,13CB AB9B;AB9C,13CC AB9C;AB9D,13CD AB9D;AB9E,13CE AB9E;AB9F,13CF AB9F;ABA0,13D0 ABA0;ABA1,13D1 ABA1;ABA2,13D2 ABA2;ABA3,13D3 ABA3;ABA4,13D4 ABA4;ABA5,13D5 ABA5;ABA6,13D6 ABA6;ABA7,13D7 ABA7;ABA8,13D8 ABA8;ABA9,13D9 ABA9;ABAA,13DA ABAA;ABAB,13DB ABAB;ABAC,13DC ABAC;ABAD,13DD ABAD;ABAE,13DE ABAE;ABAF,13DF ABAF;ABB0,13E0 ABB0;ABB1,13E1 ABB1;ABB2,13E2 ABB2;ABB3,13E3 ABB3;ABB4,13E4 ABB4;ABB5,13E5 ABB5;ABB6,13E6 ABB6;ABB7,13E7 ABB7;ABB8,13E8 ABB8;ABB9,13E9 ABB9;ABBA,13EA ABBA;ABBB,13EB ABBB;ABBC,13EC ABBC;ABBD,13ED ABBD;ABBE,13EE ABBE;ABBF,13EF ABBF;FF21,FF21 FF41;FF22,FF22 FF42;FF23,FF23 FF43;FF24,FF24 FF44;FF25,FF25 FF45;FF26,FF26 FF46;FF27,FF27 FF47;FF28,FF28 FF48;FF29,FF29 FF49;FF2A,FF2A FF4A;FF2B,FF2B FF4B;FF2C,FF2C FF4C;FF2D,FF2D FF4D;FF2E,FF2E FF4E;FF2F,FF2F FF4F;FF30,FF30 FF50;FF31,FF31 FF51;FF32,FF32 FF52;FF33,FF33 FF53;FF34,FF34 FF54;FF35,FF35 FF55;FF36,FF36 FF56;FF37,FF37 FF57;FF38,FF38 FF58;FF39,FF39 FF59;FF3A,FF3A FF5A;FF41,FF21 FF41;FF42,FF22 FF42;FF43,FF23 FF43;FF44,FF24 FF44;FF45,FF25 FF45;FF46,FF26 FF46;FF47,FF27 FF47;FF48,FF28 FF48;FF49,FF29 FF49;FF4A,FF2A FF4A;FF4B,FF2B FF4B;FF4C,FF2C FF4C;FF4D,FF2D FF4D;FF4E,FF2E FF4E;FF4F,FF2F FF4F;FF50,FF30 FF50;FF51,FF31 FF51;FF52,FF32 FF52;FF53,FF33 FF53;FF54,FF34 FF54;FF55,FF35 FF55;FF56,FF36 FF56;FF57,FF37 FF57;FF58,FF38 FF58;FF59,FF39 FF59;FF5A,FF3A FF5A;10400,10400 10428;10401,10401 10429;10402,10402 1042A;10403,10403 1042B;10404,10404 1042C;10405,10405 1042D;10406,10406 1042E;10407,10407 1042F;10408,10408 10430;10409,10409 10431;1040A,1040A 10432;1040B,1040B 10433;1040C,1040C 10434;1040D,1040D 10435;1040E,1040E 10436;1040F,1040F 10437;10410,10410 10438;10411,10411 10439;10412,10412 1043A;10413,10413 1043B;10414,10414 1043C;10415,10415 1043D;10416,10416 1043E;10417,10417 1043F;10418,10418 10440;10419,10419 10441;1041A,1041A 10442;1041B,1041B 10443;1041C,1041C 10444;1041D,1041D 10445;1041E,1041E 10446;1041F,1041F 10447;10420,10420 10448;10421,10421 10449;10422,10422 1044A;10423,10423 1044B;10424,10424 1044C;10425,10425 1044D;10426,10426 1044E;10427,10427 1044F;10428,10400 10428;10429,10401 10429;1042A,10402 1042A;1042B,10403 1042B;1042C,10404 1042C;1042D,10405 1042D;1042E,10406 1042E;1042F,10407 1042F;10430,10408 10430;10431,10409 10431;10432,1040A 10432;10433,1040B 10433;10434,1040C 10434;10435,1040D 10435;10436,1040E 10436;10437,1040F 10437;10438,10410 10438;10439,10411 10439;1043A,10412 1043A;1043B,10413 1043B;1043C,10414 1043C;1043D,10415 1043D;1043E,10416 1043E;1043F,10417 1043F;10440,10418 10440;10441,10419 10441;10442,1041A 10442;10443,1041B 10443;10444,1041C 10444;10445,1041D 10445;10446,1041E 10446;10447,1041F 10447;10448,10420 10448;10449,10421 10449;1044A,10422 1044A;1044B,10423 1044B;1044C,10424 1044C;1044D,10425 1044D;1044E,10426 1044E;1044F,10427 1044F;104B0,104B0 104D8;104B1,104B1 104D9;104B2,104B2 104DA;104B3,104B3 104DB;104B4,104B4 104DC;104B5,104B5 104DD;104B6,104B6 104DE;104B7,104B7 104DF;104B8,104B8 104E0;104B9,104B9 104E1;104BA,104BA 104E2;104BB,104BB 104E3;104BC,104BC 104E4;104BD,104BD 104E5;104BE,104BE 104E6;104BF,104BF 104E7;104C0,104C0 104E8;104C1,104C1 104E9;104C2,104C2 104EA;104C3,104C3 104EB;104C4,104C4 104EC;104C5,104C5 104ED;104C6,104C6 104EE;104C7,104C7 104EF;104C8,104C8 104F0;104C9,104C9 104F1;104CA,104CA 104F2;104CB,104CB 104F3;104CC,104CC 104F4;104CD,104CD 104F5;104CE,104CE 104F6;104CF,104CF 104F7;104D0,104D0 104F8;104D1,104D1 104F9;104D2,104D2 104FA;104D3,104D3 104FB;104D8,104B0 104D8;104D9,104B1 104D9;104DA,104B2 104DA;104DB,104B3 104DB;104DC,104B4 104DC;104DD,104B5 104DD;104DE,104B6 104DE;104DF,104B7 104DF;104E0,104B8 104E0;104E1,104B9 104E1;104E2,104BA 104E2;104E3,104BB 104E3;104E4,104BC 104E4;104E5,104BD 104E5;104E6,104BE 104E6;104E7,104BF 104E7;104E8,104C0 104E8;104E9,104C1 104E9;104EA,104C2 104EA;104EB,104C3 104EB;104EC,104C4 104EC;104ED,104C5 104ED;104EE,104C6 104EE;104EF,104C7 104EF;104F0,104C8 104F0;104F1,104C9 104F1;104F2,104CA 104F2;104F3,104CB 104F3;104F4,104CC 104F4;104F5,104CD 104F5;104F6,104CE 104F6;104F7,104CF 104F7;104F8,104D0 104F8;104F9,104D1 104F9;104FA,104D2 104FA;104FB,104D3 104FB;10570,10570 10597;10571,10571 10598;10572,10572 10599;10573,10573 1059A;10574,10574 1059B;10575,10575 1059C;10576,10576 1059D;10577,10577 1059E;10578,10578 1059F;10579,10579 105A0;1057A,1057A 105A1;1057C,1057C 105A3;1057D,1057D 105A4;1057E,1057E 105A5;1057F,1057F 105A6;10580,10580 105A7;10581,10581 105A8;10582,10582 105A9;10583,10583 105AA;10584,10584 105AB;10585,10585 105AC;10586,10586 105AD;10587,10587 105AE;10588,10588 105AF;10589,10589 105B0;1058A,1058A 105B1;1058C,1058C 105B3;1058D,1058D 105B4;1058E,1058E 105B5;1058F,1058F 105B6;10590,10590 105B7;10591,10591 105B8;10592,10592 105B9;10594,10594 105BB;10595,10595 105BC;10597,10570 10597;10598,10571 10598;10599,10572 10599;1059A,10573 1059A;1059B,10574 1059B;1059C,10575 1059C;1059D,10576 1059D;1059E,10577 1059E;1059F,10578 1059F;105A0,10579 105A0;105A1,1057A 105A1;105A3,1057C 105A3;105A4,1057D 105A4;105A5,1057E 105A5;105A6,1057F 105A6;105A7,10580 105A7;105A8,10581 105A8;105A9,10582 105A9;105AA,10583 105AA;105AB,10584 105AB;105AC,10585 105AC;105AD,10586 105AD;105AE,10587 105AE;105AF,10588 105AF;105B0,10589 105B0;105B1,1058A 105B1;105B3,1058C 105B3;105B4,1058D 105B4;105B5,1058E 105B5;105B6,1058F 105B6;105B7,10590 105B7;105B8,10591 105B8;105B9,10592 105B9;105BB,10594 105BB;105BC,10595 105BC;10C80,10C80 10CC0;10C81,10C81 10CC1;10C82,10C82 10CC2;10C83,10C83 10CC3;10C84,10C84 10CC4;10C85,10C85 10CC5;10C86,10C86 10CC6;10C87,10C87 10CC7;10C88,10C88 10CC8;10C89,10C89 10CC9;10C8A,10C8A 10CCA;10C8B,10C8B 10CCB;10C8C,10C8C 10CCC;10C8D,10C8D 10CCD;10C8E,10C8E 10CCE;10C8F,10C8F 10CCF;10C90,10C90 10CD0;10C91,10C91 10CD1;10C92,10C92 10CD2;10C93,10C93 10CD3;10C94,10C94 10CD4;10C95,10C95 10CD5;10C96,10C96 10CD6;10C97,10C97 10CD7;10C98,10C98 10CD8;10C99,10C99 10CD9;10C9A,10C9A 10CDA;10C9B,10C9B 10CDB;10C9C,10C9C 10CDC;10C9D,10C9D 10CDD;10C9E,10C9E 10CDE;10C9F,10C9F 10CDF;10CA0,10CA0 10CE0;10CA1,10CA1 10CE1;10CA2,10CA2 10CE2;10CA3,10CA3 10CE3;10CA4,10CA4 10CE4;10CA5,10CA5 10CE5;10CA6,10CA6 10CE6;10CA7,10CA7 10CE7;10CA8,10CA8 10CE8;10CA9,10CA9 10CE9;10CAA,10CAA 10CEA;10CAB,10CAB 10CEB;10CAC,10CAC 10CEC;10CAD,10CAD 10CED;10CAE,10CAE 10CEE;10CAF,10CAF 10CEF;10CB0,10CB0 10CF0;10CB1,10CB1 10CF1;10CB2,10CB2 10CF2;10CC0,10C80 10CC0;10CC1,10C81 10CC1;10CC2,10C82 10CC2;10CC3,10C83 10CC3;10CC4,10C84 10CC4;10CC5,10C85 10CC5;10CC6,10C86 10CC6;10CC7,10C87 10CC7;10CC8,10C88 10CC8;10CC9,10C89 10CC9;10CCA,10C8A 10CCA;10CCB,10C8B 10CCB;10CCC,10C8C 10CCC;10CCD,10C8D 10CCD;10CCE,10C8E 10CCE;10CCF,10C8F 10CCF;10CD0,10C90 10CD0;10CD1,10C91 10CD1;10CD2,10C92 10CD2;10CD3,10C93 10CD3;10CD4,10C94 10CD4;10CD5,10C95 10CD5;10CD6,10C96 10CD6;10CD7,10C97 10CD7;10CD8,10C98 10CD8;10CD9,10C99 10CD9;10CDA,10C9A 10CDA;10CDB,10C9B 10CDB;10CDC,10C9C 10CDC;10CDD,10C9D 10CDD;10CDE,10C9E 10CDE;10CDF,10C9F 10CDF;10CE0,10CA0 10CE0;10CE1,10CA1 10CE1;10CE2,10CA2 10CE2;10CE3,10CA3 10CE3;10CE4,10CA4 10CE4;10CE5,10CA5 10CE5;10CE6,10CA6 10CE6;10CE7,10CA7 10CE7;10CE8,10CA8 10CE8;10CE9,10CA9 10CE9;10CEA,10CAA 10CEA;10CEB,10CAB 10CEB;10CEC,10CAC 10CEC;10CED,10CAD 10CED;10CEE,10CAE 10CEE;10CEF,10CAF 10CEF;10CF0,10CB0 10CF0;10CF1,10CB1 10CF1;10CF2,10CB2 10CF2;10D50,10D50 10D70;10D51,10D51 10D71;10D52,10D52 10D72;10D53,10D53 10D73;10D54,10D54 10D74;10D55,10D55 10D75;10D56,10D56 10D76;10D57,10D57 10D77;10D58,10D58 10D78;10D59,10D59 10D79;10D5A,10D5A 10D7A;10D5B,10D5B 10D7B;10D5C,10D5C 10D7C;10D5D,10D5D 10D7D;10D5E,10D5E 10D7E;10D5F,10D5F 10D7F;10D60,10D60 10D80;10D61,10D61 10D81;10D62,10D62 10D82;10D63,10D63 10D83;10D64,10D64 10D84;10D65,10D65 10D85;10D70,10D50 10D70;10D71,10D51 10D71;10D72,10D52 10D72;10D73,10D53 10D73;10D74,10D54 10D74;10D75,10D55 10D75;10D76,10D56 10D76;10D77,10D57 10D77;10D78,10D58 10D78;10D79,10D59 10D79;10D7A,10D5A 10D7A;10D7B,10D5B 10D7B;10D7C,10D5C 10D7C;10D7D,10D5D 10D7D;10D7E,10D5E 10D7E;10D7F,10D5F 10D7F;10D80,10D60 10D80;10D81,10D61 10D81;10D82,10D62 10D82;10D83,10D63 10D83;10D84,10D64 10D84;10D85,10D65 10D85;118A0,118A0 118C0;118A1,118A1 118C1;118A2,118A2 118C2;118A3,118A3 118C3;118A4,118A4 118C4;118A5,118A5 118C5;118A6,118A6 118C6;118A7,118A7 118C7;118A8,118A8 118C8;118A9,118A9 118C9;118AA,118AA 118CA;118AB,118AB 118CB;118AC,118AC 118CC;118AD,118AD 118CD;118AE,118AE 118CE;118AF,118AF 118CF;118B0,118B0 118D0;118B1,118B1 118D1;118B2,118B2 118D2;118B3,118B3 118D3;118B4,118B4 118D4;118B5,118B5 118D5;118B6,118B6 118D6;118B7,118B7 118D7;118B8,118B8 118D8;118B9,118B9 118D9;118BA,118BA 118DA;118BB,118BB 118DB;118BC,118BC 118DC;118BD,118BD 118DD;118BE,118BE 118DE;118BF,118BF 118DF;118C0,118A0 118C0;118C1,118A1 118C1;118C2,118A2 118C2;118C3,118A3 118C3;118C4,118A4 118C4;118C5,118A5 118C5;118C6,118A6 118C6;118C7,118A7 118C7;118C8,118A8 118C8;118C9,118A9 118C9;118CA,118AA 118CA;118CB,118AB 118CB;118CC,118AC 118CC;118CD,118AD 118CD;118CE,118AE 118CE;118CF,118AF 118CF;118D0,118B0 118D0;118D1,118B1 118D1;118D2,118B2 118D2;118D3,118B3 118D3;118D4,118B4 118D4;118D5,118B5 118D5;118D6,118B6 118D6;118D7,118B7 118D7;118D8,118B8 118D8;118D9,118B9 118D9;118DA,118BA 118DA;118DB,118BB 118DB;118DC,118BC 118DC;118DD,118BD 118DD;118DE,118BE 118DE;118DF,118BF 118DF;16E40,16E40 16E60;16E41,16E41 16E61;16E42,16E42 16E62;16E43,16E43 16E63;16E44,16E44 16E64;16E45,16E45 16E65;16E46,16E46 16E66;16E47,16E47 16E67;16E48,16E48 16E68;16E49,16E49 16E69;16E4A,16E4A 16E6A;16E4B,16E4B 16E6B;16E4C,16E4C 16E6C;16E4D,16E4D 16E6D;16E4E,16E4E 16E6E;16E4F,16E4F 16E6F;16E50,16E50 16E70;16E51,16E51 16E71;16E52,16E52 16E72;16E53,16E53 16E73;16E54,16E54 16E74;16E55,16E55 16E75;16E56,16E56 16E76;16E57,16E57 16E77;16E58,16E58 16E78;16E59,16E59 16E79;16E5A,16E5A 16E7A;16E5B,16E5B 16E7B;16E5C,16E5C 16E7C;16E5D,16E5D 16E7D;16E5E,16E5E 16E7E;16E5F,16E5F 16E7F;16E60,16E40 16E60;16E61,16E41 16E61;16E62,16E42 16E62;16E63,16E43 16E63;16E64,16E44 16E64;16E65,16E45 16E65;16E66,16E46 16E66;16E67,16E47 16E67;16E68,16E48 16E68;16E69,16E49 16E69;16E6A,16E4A 16E6A;16E6B,16E4B 16E6B;16E6C,16E4C 16E6C;16E6D,16E4D 16E6D;16E6E,16E4E 16E6E;16E6F,16E4F 16E6F;16E70,16E50 16E70;16E71,16E51 16E71;16E72,16E52 16E72;16E73,16E53 16E73;16E74,16E54 16E74;16E75,16E55 16E75;16E76,16E56 16E76;16E77,16E57 16E77;16E78,16E58 16E78;16E79,16E59 16E79;16E7A,16E5A 16E7A;16E7B,16E5B 16E7B;16E7C,16E5C 16E7C;16E7D,16E5D 16E7D;16E7E,16E5E 16E7E;16E7F,16E5F 16E7F;16EA0,16EA0 16EBB;16EA1,16EA1 16EBC;16EA2,16EA2 16EBD;16EA3,16EA3 16EBE;16EA4,16EA4 16EBF;16EA5,16EA5 16EC0;16EA6,16EA6 16EC1;16EA7,16EA7 16EC2;16EA8,16EA8 16EC3;16EA9,16EA9 16EC4;16EAA,16EAA 16EC5;16EAB,16EAB 16EC6;16EAC,16EAC 16EC7;16EAD,16EAD 16EC8;16EAE,16EAE 16EC9;16EAF,16EAF 16ECA;16EB0,16EB0 16ECB;16EB1,16EB1 16ECC;16EB2,16EB2 16ECD;16EB3,16EB3 16ECE;16EB4,16EB4 16ECF;16EB5,16EB5 16ED0;16EB6,16EB6 16ED1;16EB7,16EB7 16ED2;16EB8,16EB8 16ED3;16EBB,16EA0 16EBB;16EBC,16EA1 16EBC;16EBD,16EA2 16EBD;16EBE,16EA3 16EBE;16EBF,16EA4 16EBF;16EC0,16EA5 16EC0;16EC1,16EA6 16EC1;16EC2,16EA7 16EC2;16EC3,16EA8 16EC3;16EC4,16EA9 16EC4;16EC5,16EAA 16EC5;16EC6,16EAB 16EC6;16EC7,16EAC 16EC7;16EC8,16EAD 16EC8;16EC9,16EAE 16EC9;16ECA,16EAF 16ECA;16ECB,16EB0 16ECB;16ECC,16EB1 16ECC;16ECD,16EB2 16ECD;16ECE,16EB3 16ECE;16ECF,16EB4 16ECF;16ED0,16EB5 16ED0;16ED1,16EB6 16ED1;16ED2,16EB7 16ED2;16ED3,16EB8 16ED3;1E900,1E900 1E922;1E901,1E901 1E923;1E902,1E902 1E924;1E903,1E903 1E925;1E904,1E904 1E926;1E905,1E905 1E927;1E906,1E906 1E928;1E907,1E907 1E929;1E908,1E908 1E92A;1E909,1E909 1E92B;1E90A,1E90A 1E92C;1E90B,1E90B 1E92D;1E90C,1E90C 1E92E;1E90D,1E90D 1E92F;1E90E,1E90E 1E930;1E90F,1E90F 1E931;1E910,1E910 1E932;1E911,1E911 1E933;1E912,1E912 1E934;1E913,1E913 1E935;1E914,1E914 1E936;1E915,1E915 1E937;1E916,1E916 1E938;1E917,1E917 1E939;1E918,1E918 1E93A;1E919,1E919 1E93B;1E91A,1E91A 1E93C;1E91B,1E91B 1E93D;1E91C,1E91C 1E93E;1E91D,1E91D 1E93F;1E91E,1E91E 1E940;1E91F,1E91F 1E941;1E920,1E920 1E942;1E921,1E921 1E943;1E922,1E900 1E922;1E923,1E901 1E923;1E924,1E902 1E924;1E925,1E903 1E925;1E926,1E904 1E926;1E927,1E905 1E927;1E928,1E906 1E928;1E929,1E907 1E929;1E92A,1E908 1E92A;1E92B,1E909 1E92B;1E92C,1E90A 1E92C;1E92D,1E90B 1E92D;1E92E,1E90C 1E92E;1E92F,1E90D 1E92F;1E930,1E90E 1E930;1E931,1E90F 1E931;1E932,1E910 1E932;1E933,1E911 1E933;1E934,1E912 1E934;1E935,1E913 1E935;1E936,1E914 1E936;1E937,1E915 1E937;1E938,1E916 1E938;1E939,1E917 1E939;1E93A,1E918 1E93A;1E93B,1E919 1E93B;1E93C,1E91A 1E93C;1E93D,1E91B 1E93D;1E93E,1E91C 1E93E;1E93F,1E91D 1E93F;1E940,1E91E 1E940;1E941,1E91F 1E941;1E942,1E920 1E942;1E943,1E921 1E943"

/-- The names of the character properties: the long name, then all its aliases. -/
def propertyNameText : String :=
  "kAccountingNumeric,cjkAccountingNumeric kAccountingNumeric;kOtherNumeric,cjkOtherNumeric kOtherNumeric;kPrimaryNumeric,cjkPrimaryNumeric kPrimaryNumeric;Numeric_Value,nv Numeric_Value;Bidi_Mirroring_Glyph,bmg Bidi_Mirroring_Glyph;Bidi_Paired_Bracket,bpb Bidi_Paired_Bracket;Case_Folding,cf Case_Folding;kCompatibilityVariant,cjkCompatibilityVariant kCompatibilityVariant;Decomposition_Mapping,dm Decomposition_Mapping;Equivalent_Unified_Ideograph,EqUIdeo Equivalent_Unified_Ideograph;FC_NFKC_Closure,FC_NFKC FC_NFKC_Closure;Lowercase_Mapping,lc Lowercase_Mapping;NFKC_Casefold,NFKC_CF NFKC_Casefold;NFKC_Simple_Casefold,NFKC_SCF NFKC_Simple_Casefold;Simple_Case_Folding,scf Simple_Case_Folding sfc;Simple_Lowercase_Mapping,slc Simple_Lowercase_Mapping;Simple_Titlecase_Mapping,stc Simple_Titlecase_Mapping;Simple_Uppercase_Mapping,suc Simple_Uppercase_Mapping;Titlecase_Mapping,tc Titlecase_Mapping;Uppercase_Mapping,uc Uppercase_Mapping;kIICore,cjkIICore kIICore;kIRG_GSource,cjkIRG_GSource kIRG_GSource;kIRG_HSource,cjkIRG_HSource kIRG_HSource;kIRG_JSource,cjkIRG_JSource kIRG_JSource;kIRG_KPSource,cjkIRG_KPSource kIRG_KPSource;kIRG_KSource,cjkIRG_KSource kIRG_KSource;kIRG_MSource,cjkIRG_MSource kIRG_MSource;kIRG_SSource,cjkIRG_SSource kIRG_SSource;kIRG_TSource,cjkIRG_TSource kIRG_TSource;kIRG_UKSource,cjkIRG_UKSource kIRG_UKSource;kIRG_USource,cjkIRG_USource kIRG_USource;kIRG_VSource,cjkIRG_VSource kIRG_VSource;kRSUnicode,cjkRSUnicode kRSUnicode Unicode_Radical_Stroke URS;ISO_Comment,isc ISO_Comment;Jamo_Short_Name,JSN Jamo_Short_Name;Name,na Name;Unicode_1_Name,na1 Unicode_1_Name;Name_Alias,Name_Alias Name_Alias;Script_Extensions,scx Script_Extensions;Age,age Age;Block,blk Block;Script,sc Script;Bidi_Class,bc Bidi_Class;Bidi_Paired_Bracket_Type,bpt Bidi_Paired_Bracket_Type;Canonical_Combining_Class,ccc Canonical_Combining_Class;Decomposition_Type,dt Decomposition_Type;East_Asian_Width,ea East_Asian_Width;General_Category,gc General_Category;Grapheme_Cluster_Break,GCB Grapheme_Cluster_Break;Hangul_Syllable_Type,hst Hangul_Syllable_Type;Indic_Conjunct_Break,InCB Indic_Conjunct_Break;Indic_Positional_Category,InPC Indic_Positional_Category;Indic_Syllabic_Category,InSC Indic_Syllabic_Category;Joining_Group,jg Joining_Group;Joining_Type,jt Joining_Type;Line_Break,lb Line_Break;NFC_Quick_Check,NFC_QC NFC_Quick_Check;NFD_Quick_Check,NFD_QC NFD_Quick_Check;NFKC_Quick_Check,NFKC_QC NFKC_Quick_Check;NFKD_Quick_Check,NFKD_QC NFKD_Quick_Check;Numeric_Type,nt Numeric_Type;Sentence_Break,SB Sentence_Break;Vertical_Orientation,vo Vertical_Orientation;Word_Break,WB Word_Break;ASCII_Hex_Digit,AHex ASCII_Hex_Digit;Alphabetic,Alpha Alphabetic;Bidi_Control,Bidi_C Bidi_Control;Bidi_Mirrored,Bidi_M Bidi_Mirrored;Cased,Cased Cased;Composition_Exclusion,CE Composition_Exclusion;Case_Ignorable,CI Case_Ignorable;Full_Composition_Exclusion,Comp_Ex Full_Composition_Exclusion;Changes_When_Casefolded,CWCF Changes_When_Casefolded;Changes_When_Casemapped,CWCM Changes_When_Casemapped;Changes_When_NFKC_Casefolded,CWKCF Changes_When_NFKC_Casefolded;Changes_When_Lowercased,CWL Changes_When_Lowercased;Changes_When_Titlecased,CWT Changes_When_Titlecased;Changes_When_Uppercased,CWU Changes_When_Uppercased;Dash,Dash Dash;Deprecated,Dep Deprecated;Default_Ignorable_Code_Point,DI Default_Ignorable_Code_Point;Diacritic,Dia Diacritic;Emoji_Modifier_Base,EBase Emoji_Modifier_Base;Emoji_Component,EComp Emoji_Component;Emoji_Modifier,EMod Emoji_Modifier;Emoji,Emoji Emoji;Emoji_Presentation,EPres Emoji_Presentation;Extender,Ext Extender;Extended_Pictographic,ExtPict Extended_Pictographic;Grapheme_Base,Gr_Base Grapheme_Base;Grapheme_Extend,Gr_Ext Grapheme_Extend;Grapheme_Link,Gr_Link Grapheme_Link;Hex_Digit,Hex Hex_Digit;Hyphen,Hyphen Hyphen;ID_Compat_Math_Continue,ID_Compat_Math_Continue ID_Compat_Math_Continue;ID_Compat_Math_Start,ID_Compat_Math_Start ID_Compat_Math_Start;ID_Continue,IDC ID_Continue;Ideographic,Ideo Ideographic;ID_Start,IDS ID_Start;IDS_Binary_Operator,IDSB IDS_Binary_Operator;IDS_Trinary_Operator,IDST IDS_Trinary_Operator;IDS_Unary_Operator,IDSU IDS_Unary_Operator;Join_Control,Join_C Join_Control;Logical_Order_Exception,LOE Logical_Order_Exception;Lowercase,Lower Lowercase;Math,Math Math;Modifier_Combining_Mark,MCM Modifier_Combining_Mark;Noncharacter_Code_Point,NChar Noncharacter_Code_Point;Other_Alphabetic,OAlpha Other_Alphabetic;Other_Default_Ignorable_Code_Point,ODI Other_Default_Ignorable_Code_Point;Other_Grapheme_Extend,OGr_Ext Other_Grapheme_Extend;Other_ID_Continue,OIDC Other_ID_Continue;Other_ID_Start,OIDS Other_ID_Start;Other_Lowercase,OLower Other_Lowercase;Other_Math,OMath Other_Math;Other_Uppercase,OUpper Other_Uppercase;Pattern_Syntax,Pat_Syn Pattern_Syntax;Pattern_White_Space,Pat_WS Pattern_White_Space;Prepended_Concatenation_Mark,PCM Prepended_Concatenation_Mark;Quotation_Mark,QMark Quotation_Mark;Radical,Radical Radical;Regional_Indicator,RI Regional_Indicator;Soft_Dotted,SD Soft_Dotted;Sentence_Terminal,STerm Sentence_Terminal;Terminal_Punctuation,Term Terminal_Punctuation;Unified_Ideograph,UIdeo Unified_Ideograph;Uppercase,Upper Uppercase;Variation_Selector,VS Variation_Selector;White_Space,WSpace White_Space space;XID_Continue,XIDC XID_Continue;XID_Start,XIDS XID_Start;Expands_On_NFC,XO_NFC Expands_On_NFC;Expands_On_NFD,XO_NFD Expands_On_NFD;Expands_On_NFKC,XO_NFKC Expands_On_NFKC;Expands_On_NFKD,XO_NFKD Expands_On_NFKD"

/-- The values of the enumerated properties a pattern may name (`gc`, `sc`, `age`, `gcb`, `wb`, `sb`): the property, the long name of the value, then all its aliases. -/
def propertyValueText : String :=
  "gc,Other,C Other;gc,Control,Cc Control Cntrl;gc,Format,Cf Format;gc,Unassigned,Cn Unassigned;gc,Private_Use,Co Private_Use;gc,Surrogate,Cs Surrogate;gc,Letter,L Letter;gc,Cased_Letter,LC Cased_Letter;gc,Lowercase_Letter,Ll Lowercase_Letter;gc,Modifier_Letter,Lm Modifier_Letter;gc,Other_Letter,Lo Other_Letter;gc,Titlecase_Letter,Lt Titlecase_Letter;gc,Uppercase_Letter,Lu Uppercase_Letter;gc,Mark,M Mark Combining_Mark;gc,Spacing_Mark,Mc Spacing_Mark;gc,Enclosing_Mark,Me Enclosing_Mark;gc,Nonspacing_Mark,Mn Nonspacing_Mark;gc,Number,N Number;gc,Decimal_Number,Nd Decimal_Number Digit;gc,Letter_Number,Nl Letter_Number;gc,Other_Number,No Other_Number;gc,Punctuation,P Punctuation Punct;gc,Connector_Punctuation,Pc Connector_Punctuation;gc,Dash_Punctuation,Pd Dash_Punctuation;gc,Close_Punctuation,Pe Close_Punctuation;gc,Final_Punctuation,Pf Final_Punctuation;gc,Initial_Punctuation,Pi Initial_Punctuation;gc,Other_Punctuation,Po Other_Punctuation;gc,Open_Punctuation,Ps Open_Punctuation;gc,Symbol,S Symbol;gc,Currency_Symbol,Sc Currency_Symbol;gc,Modifier_Symbol,Sk Modifier_Symbol;gc,Math_Symbol,Sm Math_Symbol;gc,Other_Symbol,So Other_Symbol;gc,Separator,Z Separator;gc,Line_Separator,Zl Line_Separator;gc,Paragraph_Separator,Zp Paragraph_Separator;gc,Space_Separator,Zs Space_Separator;age,V1_1,1.1 V1_1;age,V10_0,10.0 V10_0;age,V11_0,11.0 V11_0;age,V12_0,12.0 V12_0;age,V12_1,12.1 V12_1;age,V13_0,13.0 V13_0;age,V14_0,14.0 V14_0;age,V15_0,15.0 V15_0;age,V2_0,2.0 V2_0;age,V2_1,2.1 V2_1;age,V3_0,3.0 V3_0;age,V3_1,3.1 V3_1;age,V3_2,3.2 V3_2;age,V4_0,4.0 V4_0;age,V4_1,4.1 V4_1;age,V5_0,5.0 V5_0;age,V5_1,5.1 V5_1;age,V5_2,5.2 V5_2;age,V6_0,6.0 V6_0;age,V6_1,6.1 V6_1;age,V6_2,6.2 V6_2;age,V6_3,6.3 V6_3;age,V7_0,7.0 V7_0;age,V8_0,8.0 V8_0;age,V9_0,9.0 V9_0;age,Unassigned,NA Unassigned;gcb,Control,CN Control;gcb,CR,CR CR;gcb,E_Base,EB E_Base;gcb,E_Base_GAZ,EBG E_Base_GAZ;gcb,E_Modifier,EM E_Modifier;gcb,Extend,EX Extend;gcb,Glue_After_Zwj,GAZ Glue_After_Zwj;gcb,L,L L;gcb,LF,LF LF;gcb,LV,LV LV;gcb,LVT,LVT LVT;gcb,Prepend,PP Prepend;gcb,Regional_Indicator,RI Regional_Indicator;gcb,SpacingMark,SM SpacingMark;gcb,T,T T;gcb,V,V V;gcb,Other,XX Other;gcb,ZWJ,ZWJ ZWJ;wb,CR,CR CR;wb,Double_Quote,DQ Double_Quote;wb,E_Base,EB E_Base;wb,E_Base_GAZ,EBG E_Base_GAZ;wb,E_Modifier,EM E_Modifier;wb,ExtendNumLet,EX ExtendNumLet;wb,Extend,Extend Extend;wb,Format,FO Format;wb,Glue_After_Zwj,GAZ Glue_After_Zwj;wb,Hebrew_Letter,HL Hebrew_Letter;wb,Katakana,KA Katakana;wb,ALetter,LE ALetter;wb,LF,LF LF;wb,MidNumLet,MB MidNumLet;wb,MidLetter,ML MidLetter;wb,MidNum,MN MidNum;wb,Newline,NL Newline;wb,Numeric,NU Numeric;wb,Regional_Indicator,RI Regional_Indicator;wb,Single_Quote,SQ Single_Quote;wb,WSegSpace,WSegSpace WSegSpace;wb,Other,XX Other;wb,ZWJ,ZWJ ZWJ;sb,ATerm,AT ATerm;sb,Close,CL Close;sb,CR,CR CR;sb,Extend,EX Extend;sb,Format,FO Format;sb,OLetter,LE OLetter;sb,LF,LF LF;sb,Lower,LO Lower;sb,Numeric,NU Numeric;sb,SContinue,SC SContinue;sb,Sep,SE Sep;sb,Sp,SP Sp;sb,STerm,ST STerm;sb,Upper,UP Upper;sb,Other,XX Other;age,V15_1,15.1 V15_1;age,V16_0,16.0 V16_0;sc,Adlam,Adlm Adlam;sc,Caucasian_Albanian,Aghb Caucasian_Albanian;sc,Ahom,Ahom Ahom;sc,Arabic,Arab Arabic;sc,Imperial_Aramaic,Armi Imperial_Aramaic;sc,Armenian,Armn Armenian;sc,Avestan,Avst Avestan;sc,Balinese,Bali Balinese;sc,Bamum,Bamu Bamum;sc,Bassa_Vah,Bass Bassa_Vah;sc,Batak,Batk Batak;sc,Bengali,Beng Bengali;sc,Bhaiksuki,Bhks Bhaiksuki;sc,Bopomofo,Bopo Bopomofo;sc,Brahmi,Brah Brahmi;sc,Braille,Brai Braille;sc,Buginese,Bugi Buginese;sc,Buhid,Buhd Buhid;sc,Chakma,Cakm Chakma;sc,Canadian_Aboriginal,Cans Canadian_Aboriginal;sc,Carian,Cari Carian;sc,Cham,Cham Cham;sc,Cherokee,Cher Cherokee;sc,Chorasmian,Chrs Chorasmian;sc,Coptic,Copt Coptic Qaac;sc,Cypro_Minoan,Cpmn Cypro_Minoan;sc,Cypriot,Cprt Cypriot;sc,Cyrillic,Cyrl Cyrillic;sc,Devanagari,Deva Devanagari;sc,Dives_Akuru,Diak Dives_Akuru;sc,Dogra,Dogr Dogra;sc,Deseret,Dsrt Deseret;sc,Duployan,Dupl Duployan;sc,Egyptian_Hieroglyphs,Egyp Egyptian_Hieroglyphs;sc,Elbasan,Elba Elbasan;sc,Elymaic,Elym Elymaic;sc,Ethiopic,Ethi Ethiopic;sc,Georgian,Geor Georgian;sc,Glagolitic,Glag Glagolitic;sc,Gunjala_Gondi,Gong Gunjala_Gondi;sc,Masaram_Gondi,Gonm Masaram_Gondi;sc,Gothic,Goth Gothic;sc,Grantha,Gran Grantha;sc,Greek,Grek Greek;sc,Gujarati,Gujr Gujarati;sc,Gurmukhi,Guru Gurmukhi;sc,Hangul,Hang Hangul;sc,Han,Hani Han;sc,Hanunoo,Hano Hanunoo;sc,Hatran,Hatr Hatran;sc,Hebrew,Hebr Hebrew;sc,Hiragana,Hira Hiragana;sc,Anatolian_Hieroglyphs,Hluw Anatolian_Hieroglyphs;sc,Pahawh_Hmong,Hmng Pahawh_Hmong;sc,Nyiakeng_Puachue_Hmong,Hmnp Nyiakeng_Puachue_Hmong;sc,Old_Hungarian,Hung Old_Hungarian;sc,Old_Italic,Ital Old_Italic;sc,Javanese,Java Javanese;sc,Kayah_Li,Kali Kayah_Li;sc,Katakana,Kana Katakana;sc,Kawi,Kawi Kawi;sc,Kharoshthi,Khar Kharoshthi;sc,Khmer,Khmr Khmer;sc,Khojki,Khoj Khojki;sc,Khitan_Small_Script,Kits Khitan_Small_Script;sc,Kannada,Knda Kannada;sc,Kaithi,Kthi Kaithi;sc,Tai_Tham,Lana Tai_Tham;sc,Lao,Laoo Lao;sc,Latin,Latn Latin;sc,Lepcha,Lepc Lepcha;sc,Limbu,Limb Limbu;sc,Linear_A,Lina Linear_A;sc,Linear_B,Linb Linear_B;sc,Lisu,Lisu Lisu;sc,Lycian,Lyci Lycian;sc,Lydian,Lydi Lydian;sc,Mahajani,Mahj Mahajani;sc,Makasar,Maka Makasar;sc,Mandaic,Mand Mandaic;sc,Manichaean,Mani Manichaean;sc,Marchen,Marc Marchen;sc,Medefaidrin,Medf Medefaidrin;sc,Mende_Kikakui,Mend Mende_Kikakui;sc,Meroitic_Cursive,Merc Meroitic_Cursive;sc,Meroitic_Hieroglyphs,Mero Meroitic_Hieroglyphs;sc,Malayalam,Mlym Malayalam;sc,Modi,Modi Modi;sc,Mongolian,Mong Mongolian;sc,Mro,Mroo Mro;sc,Meetei_Mayek,Mtei Meetei_Mayek;sc,Multani,Mult Multani;sc,Myanmar,Mymr Myanmar;sc,Nag_Mundari,Nagm Nag_Mundari;sc,Nandinagari,Nand Nandinagari;sc,Old_North_Arabian,Narb Old_North_Arabian;sc,Nabataean,Nbat Nabataean;sc,Newa,Newa Newa;sc,Nko,Nkoo Nko;sc,Nushu,Nshu Nushu;sc,Ogham,Ogam Ogham;sc,Ol_Chiki,Olck Ol_Chiki;sc,Old_Turkic,Orkh Old_Turkic;sc,Oriya,Orya Oriya;sc,Osage,Osge Osage;sc,Osmanya,Osma Osmanya;sc,Old_Uyghur,Ougr Old_Uyghur;sc,Palmyrene,Palm Palmyrene;sc,Pau_Cin_Hau,Pauc Pau_Cin_Hau;sc,Old_Permic,Perm Old_Permic;sc,Phags_Pa,Phag Phags_Pa;sc,Inscriptional_Pahlavi,Phli Inscriptional_Pahlavi;sc,Psalter_Pahlavi,Phlp Psalter_Pahlavi;sc,Phoenician,Phnx Phoenician;sc,Miao,Plrd Miao;sc,Inscriptional_Parthian,Prti Inscriptional_Parthian;sc,Rejang,Rjng Rejang;sc,Hanifi_Rohingya,Rohg Hanifi_Rohingya;sc,Runic,Runr Runic;sc,Samaritan,Samr Samaritan;sc,Old_South_Arabian,Sarb Old_South_Arabian;sc,Saurashtra,Saur Saurashtra;sc,SignWriting,Sgnw SignWriting;sc,Shavian,Shaw Shavian;sc,Sharada,Shrd Sharada;sc,Siddham,Sidd Siddham;sc,Khudawadi,Sind Khudawadi;sc,Sinhala,Sinh Sinhala;sc,Sogdian,Sogd Sogdian;sc,Old_Sogdian,Sogo Old_Sogdian;sc,Sora_Sompeng,Sora Sora_Sompeng;sc,Soyombo,Soyo Soyombo;sc,Sundanese,Sund Sundanese;sc,Syloti_Nagri,Sylo Syloti_Nagri;sc,Syriac,Syrc Syriac;sc,Tagbanwa,Tagb Tagbanwa;sc,Takri,Takr Takri;sc,Tai_Le,Tale Tai_Le;sc,New_Tai_Lue,Talu New_Tai_Lue;sc,Tamil,Taml Tamil;sc,Tangut,Tang Tangut;sc,Tai_Viet,Tavt Tai_Viet;sc,Telugu,Telu Telugu;sc,Tifinagh,Tfng Tifinagh;sc,Tagalog,Tglg Tagalog;sc,Thaana,Thaa Thaana;sc,Thai,Thai Thai;sc,Tibetan,Tibt Tibetan;sc,Tirhuta,Tirh Tirhuta;sc,Tangsa,Tnsa Tangsa;sc,Toto,Toto Toto;sc,Ugaritic,Ugar Ugaritic;sc,Vai,Vaii Vai;sc,Vithkuqi,Vith Vithkuqi;sc,Warang_Citi,Wara Warang_Citi;sc,Wancho,Wcho Wancho;sc,Old_Persian,Xpeo Old_Persian;sc,Cuneiform,Xsux Cuneiform;sc,Yezidi,Yezi Yezidi;sc,Yi,Yiii Yi;sc,Zanabazar_Square,Zanb Zanabazar_Square;sc,Inherited,Zinh Inherited Qaai;sc,Common,Zyyy Common;sc,Unknown,Zzzz Unknown;sc,Garay,Gara Garay;sc,Gurung_Khema,Gukh Gurung_Khema;sc,Kirat_Rai,Krai Kirat_Rai;sc,Ol_Onal,Onao Ol_Onal;sc,Sunuwar,Sunu Sunuwar;sc,Todhri,Todr Todhri;sc,Tulu_Tigalari,Tutg Tulu_Tigalari"

end Unicode

end ChainWatch
