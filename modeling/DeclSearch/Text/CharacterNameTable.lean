/-
# The digests of character names

The names of characters by version 14.0 of the character standard, with the aliases that
may be used instead of them and without the names that are made by rule.  Each row holds
the digests that agree in their lower eleven bits, as groups of four signs for the others.
-/

namespace DeclSearch
namespace Text

/-- The rows of the table. -/
def nameRows : List String := [
  "C0FnG0fPLATdLz9EM6lQPRNlVtG4Y+skf8RhiBuqiV/Yi7s5kYSbpU7Lr+Joy+CM6Wr79GZ9/XCs",
  "DFEkELH6GeMxJcWNJrTpMlgoOh/TOmHcbqWhelTCgO03mzoXpGeuyv891T+M38tD7l1J/DLg",
  "AEpbBM5oDcCRaunPhcbmolXXqT7Z5Qcw/QyA/wHb",
  "HNXyIWIMKjKWK/tKMF4cMbZOPMLAfvdXmJO0q3ksyxOC",
  "IJKgL0KJMbdiMfWwNI7AP0UrP+bvUA0zULGRVV9/VpsVXGhaaBika709tvZ+xiF30ehj9ltR",
  "Cd2qCuy6EFrZEGekEWQuIMp/JPWwMPZLP6gvRuUfS9Q5TU2DX8wAgf2zkDaIwE0x0QNH0xjj0yNZ1bCX2JdQ",
  "AQ77BEzyBx5LCELEC83tDN+WDwKnFrbpOGvEOkfcTMrIWab/XG3GXxquZ5igaOOkd0lYf/q/lJoomX2Tt9g3v9Fm2/Fo5A418Xnh",
  "C7fyD2+7EgPBFoWzGP8eIblQJLafM8G2R4uKUs6Lf15phI3tpNJ76XW165dJ",
  "CXovDK7kF+AnHTO8JC+JKSRfPTMUSxkJU7wbYMvijAAxmmumoFOC0XEt4Wis5LdI9ULy",
  "AGLBBOxnG9XIIT8jPvH4SZMBS/2+T3tVYBlcZlypaNlDa2HaczN0eWbJfSFwkEUKmP/CnUzYo0EIpA7AsOUQs1DptRaawaSxzE4F32E44KER6MR8",
  "OXH0QkWSWHYKWoJMgl3jkkckqNumw3K02xaO5bZz7ca0",
  "FNVDF3MKGEgYRz2ba+UUf+Hxgn2Fl3M9mG8Dnz2IqbtyrQuQrn6htQ82yGma1H+/4XqR/QEA",
  "FFIQHcAmJbp2Ng9vPyHpTJbqYCohfD1vf/OFh928rBgt2K+22whv3bxm3pQu5FAy",
  "APCNEI4eKnFdKqcGKwkHO1E+T4RpXzMUasAEa0pWcpGDmU5bpW4UqA6ctYaXw7R8xrTHx2of01oe1rxM4BJi8iGX9vdd",
  "NMzxQiQeUeQ+WtV2Ym5tZhZwemeZfVhSiCEgiDu3jW+elCovmc1vnaNhpvodqIGaqTcsx5yQ",
  "AB/RBsICBuLSB6bVDMdKKhniTS5QW29yaOlIdRE0kdbQoQzmxNEsxjrrztz/3lv64I394eIu4lzg+PSZ",
  "AHsnEXkrLVE8TrdfXJ0lXuGJek/3fuGrkoOco1lut5NM4Ll35PE59BCg9EbF9E1y",
  "EsiwN0hFO3JSPw2cUFECdD3aee9giROhizxyputIugb5y+RPz6An0E1v7d8a/W1d/uCH",
  "E4vxFEA0F06VWXoeZVxqa1ancT25eDnhfLFziJCniVfwn1XuoJdXqiB7tkvEyfiJyr3z1EG94ZL34f8y86Rl+QRY",
  "BQ5PEKwhF834GOLZGWQhGXmJHOQUIP2HQId3VH+ihOIWk/hTn8lRptgKq0+gsTtTsdw9tnRAu8DDvxMuzlbf2ZO73qyU5Q64",
  "AoueExmyE4kHGY42NYW/O/oJPaWVWevdbm4VqW50rO48yCmR4CrI+JCo+w9U",
  "DBJSE5iURRxcfcHpn8pNsAC0tVOCtV+nuzo522nt5Shr",
  "AKjTLuMoMIUoSyADUT7RaQGudNcUgDFHnnrwwa1Vxsu77Pb38brh8nP78+Z/+KsT+os2/IRU",
  "LfUNNbLiS/K+XLWLoa6oqyGG1oc73Yng37Zu7hcw821w9F8r9GXY",
  "ApxPBlH0DZvjEsuKKuK/RA5+UGloXO9aaAk2cSU2g16rlv7DmzlyoZcVvnym30yp7JnR9Vuc+sA5",
  "Aw3ZBM3DDpLUFsDhFtk1HsLtLQdaZVI+ZnF9oiQFolDbxVo8zPRy3pRo30gt4atd7DAT+Ry+",
  "BCwsCiW8JiOGVM0TZ+nwefIlewEqlAkCmJMPn7vxyeed6kE97sTu",
  "BcUWBoR3Mba9MfjbXWsocob3erx5h7hLiilyoGXmoUtZpKTAxD2szH6D16If4EMu5Grz5mK19lqs",
  "AAhuAfvAA8jSWdyAWoJVcUeMn+KzqQFasvPMyGoA3nsj9cA3",
  "FrZEHBBvJ3BwbskMcGkPd91jeGK1fETxhIBfhoVGk69glJmDrDZJrWf6w/PVy/Akz2WV1pjh/+am",
  "E9BUJnCYNmivVhfZXM3xZeA2bRUwgBTKjwvxn5jcpHjdrhRTw3Ciy90P/bc3",
  "M1ksNJpbNZhhSWtfUIHOYPzbczrig5dsmmsBn6iD58il",
  "IT5+dRhhe1+3hGgAnUwzpA4brPj6sz5su3iTyC3Zz6aF4mYu8K7P8jVE+6l2/xmc/0vl",
  "K5HGSaZSd3Y9l8vfq3h4sv6Txbbe+NRM",
  "EF6tF3JlIH+hMV6XMc8jZRs3ffIrgbP9gnzghIRmnuH7oH5Mprzar0fuv0kp2Gx+2IFt4FuU6biL",
  "BZd6B4FvFMC7GZZQH9zWTWVEUjfYWHb+XOw3ZwIzuclo1vet2K8R7gQw9Zh+",
  "CpBnGjGpM2PpTWNyTnvsXLZWYTVPZRbnaPtljN9BjmjzonhIupuuvZRG3DtO52uE",
  "BZENDi0NGw5GLPh7Ph35SV6sT/oPaU+ecalEciexmqghn7FCrJHJtDpuusH9x4feyR95ylBf3RNm",
  "CQLjDMalHiuYL+GDOdJGWr4UcSYRekfAgKn3gYFrh/KUlxEnmoNnqifx1iqj3SlV4LEE4lw75Nqv65xY8+Rp/lck/7U1",
  "AHqCCQMxGOQvInyFM3G/TwBJZFvkZqtWeFZ5o1jJp61yuAVcvehK3+qX5P7Y+iqY+mi9/zIC",
  "Jb4ELCtxN9FDN/fEQosnak85caemdomRiNZlxY611g4Z6fZt7d517eLg7mRs88ma",
  "C1lZFPIuF4rLLEGxWQjXWuanbiX2gpVGjbt4n1VJuHcPwZm0wcjLxI9Ny+1m0oOJ1EEY3Q7d38kQ/ugr",
  "Es/jHB46HW0YLNkWOTmYYORGY47aaZzma88OfTBblg9QoBpYr2H/0Cwx3x2N6UGv8/Mg",
  "AO7OD7AfF5CsH3IJJxa4L/RmM14bNHUQNT+dP1T/TW9IWiRAX0rVZGEAdZVCd7c6iN8Nr1mou0Bfv2yr3B9n8Nvt97P3+w6v",
  "ATixM/HdRRu3SkEiUOmodbphjKRVnd05syjEuNKOvA8bv/Ljx7RR0exP",
  "DN8LGXedL8W6MEXTM6jfQ7ICRl1CR7qpS4NJWezCaQEJfKtXh70rkxtMmpvNpQaiv5tP8hwO9lbn/82b",
  "AJLoCo8DC16UETxMFJmoG01XM6gGPVEnPW/gPe/OTuRxUbuMWDJiW0HyXro8oJQwo3Evo/46rcb8vMzUzfxD4NE49GUz+P3A+kL+",
  "dLOcmzjNu2JwwnzUxmolx1Gk7fbb",
  "AAFaBM0eMj49PCxzP6LQX4lOgq2slcDvn22voMqJ0yS130eI4aq4+RrN/wCR",
  "CwofC7NVF+W5JMIiKokWRRdISmADhXXOlWXomkdto9iGrLiB1Q/W3nTc3sRV5Um+6YQ/9uuY/1ua",
  "IKIGKPiINI12QRZySie8hvAtk1TilGcrlNzbmPQHqR+MviYM0jlH2go79loH+gb3/SJO",
  "C7U2IMk1JV9tK4y7NApDRhZgXaK3cS00n8sW3np+6Roz8ATq+GZ1",
  "B9b8JSUQN/2yYtsTd8HzkWjomtFysBzbyFn16IUt80LJ",
  "AKtOA/jNC2+GMGJCMHKkM8BsVeklWB+aXM1MZdZoh7VEmfQFo741tylRu3bH5m3Y6lBu8CXJ+X5W+ltk+o8U",
  "Dj3ZEVfYGnbiUIEpVmWhaaK2baV2cZsofX19iFRTnkWr7AG97g9B",
  "CN5GIT3ZMOS9MhtvShl+VVB0Z11eiADfm/IOn4YVpA12p3DowAFSwSovxPEV31/u4cMe55LM",
  "BAnFEdZEKBn8QrGoS6hqT9/2ZQlea//acM+4dqoUg3IIh9U8q3fTu/bLv40x0iDe3ty75v0Q+LFM",
  "E8F+Ff28HVY4KFxZKSczM/OMNKXcOLApRbfFSCfFXx3WYDxzbQwcddc8jn6InTe+oH2noRAdq7VSsKpAssPBvryXyHLpz5rw2OWe4Frv7SXl/2bR",
  "D6JrFFDGOd5WPyCfRTqaRXJdRjqVV3MIcWJle2zJmJP9n/p0xsRaztCnzylr3pLk5t6u8LT7/akR",
  "KpntKqW8Lq8rQnDZRAANR7OAZRZCm2FKppOSrq+w3fwp8yYL9Ix1",
  "EPUuFOLnM9jSO1bjT/lqXG/zXOWyY1W+ZkCnZ6A7a7XPeVDCe78iilA2lGi+ngvNn7CdohsQthkH0m0c4E5u+Za8",
  "HsB0Is3gLpUOOLMBPQ72S1LWUJmPWr1vYlZZqFlWuk+G0TZo4luW+YSd",
  "BkN+FJiMGShRTpZ/ZQZbbDFlczxNjrCEn557yep74duE4n3v8/Rd",
  "BN3eDHwMDxXWPcb1Ub07XQTCYzR1ZSHEZZr4eJ2ZiqMimulwyPoR0nlv+Mmy",
  "IJdiKcK/LVJBOHjpR26+WQgydwgde6FViHzdoJYNtsPCxs1y0M5l8MY3",
  "OETHOa7GT7mCaBzxcm9Dd5KYjq2ioay3uQ4mwaUYy/xM3qtK",
  "It46Kn4YMoElNSKIRPkdR6xQWiObZS6oaEbXsF4cv2wGwS/VyLWbzvvP56Vs",
  "DAzRGrpZJLOBN/5vPOkORRsSXP4Yc3c3evPYmhVLn8kDtamPzNiyz/JS0ms9049V",
  "BbquCAtHFls8GNUeHXJGMiZkSCRtTux4UvgNXsFAYoVqasrwcIH3cd4KduiejNqdmpsoql9atNQKuBCpuylMzFk9zKpE1jUd6t+B/8z2",
  "Bna7B8jzDCYEFTyFFbQMNE06SC8HWDG9WEnWbLPZc09hdySFeY+9ibhMlMgulb9FlpZlq2I1vZwnv5Qn1i675Vtk8TUx8d1o/Rfe",
  "LEMyMlntNh0fWtW4YHgkgOtIiAF1om+sr4xaz8/o2SkP5Tra7WIO",
  "BS7xBU53BdwsGZ7VHKU8M/oFNequOCIQO0JuRdMDUkybUnHIVJOXWLgzW0rBgq0Hwx8D1Hr+1T033IX1871t/v/s",
  "HThDJ6PRTpBOT9F0VW8oaZh4dcdRg+M/hE0soON9trd+vj8tw28XxpU62KLq4FKf",
  "C9hSDhgpHw3XIEuhOgLpSH3zWjwBZUcOZbzCmIzpmU+FmeKCoLqvq1lWvti5xUqFxYli2FwF4Mok6pSl62cH713V8Yu09lli+oOo",
  "CTZACs9JF8gJIpPUJ/QQaW07cj3Sc88/ddIigIzeggNegzLrkxObn+FppRpjsB10yDeL4H869tpv",
  "CgW8D4xlMqG9O6bPWbOzWcyuiOShkWhDrBg/uoBS0aEM4ZB64mt//+Vc",
  "Bo8hKrxlLiU9Rjv1TOSJVjsCWpwRX9Q0ZGrpaYtvdTg8hDT+ndiHxec61FNR+lq/",
  "DPWXGqInIBW6Qg6YRbhbTAoCVmT8WYLXXcdPamjDgfGkjZo5k/WqnSFFqmW+rQwtt82bumG7vmsm02ii2UF13FQi4WDC7g6c8/MU",
  "AoH7DnhJH/fnIT00ShjZZQR/dPuJd//0lEsepAzRr3r+56bx6KtQ+CvJ/xhS",
  "CQ3vDg+wIWbZPL/lRDzCT+pOWz6/XIlcYx9pdlK+iF8/ml8unOa3q3curG1axIXK1IHH9Gmw",
  "KcXaLkQLNKU3QRj7ZVRMdTDFffDhfxC4fyIoh3Rpk/TIpuBetKdnt0/J2HRr7KyI7+jk",
  "BzOkCyQCHvsYIMSQRhs9USRpWzp3YC1ea1NrjlWEmo1DpTLJ8bra+QJp",
  "BwnqGASXMEmDOxdTQnA0TnqiYvLUgmIXhIWJkYCpmsv0twnCzUr085ym/3JG",
  "DgruGcWtG3fkM9gtO+ZRRItZRiQET/jFYsmFZJW7Z5+Wdj+hffG6gyHgnGYmnLuOoLBI3RIc4E846NZB7xZF8TRO+nMl",
  "Vn1iWrzKfLXbhgJ5h12A01Ao3kbE4lrx7icC9kc1+nCw",
  "AZqyA8u3BjzgFfhPSjE/cCJFczuodRt3nitDn53WrNzPtrvdyHp/yenW4drf7mbv/zC4",
  "A3lMCSZVDuRZEKHOHrvrIP+gIlXYf2MwhoBijb4wmXDYmneUmujLm/cu2I6a5P1V85kl9tl5",
  "C1gPJi4MOSKCO3rxWQeNWrrKewoofPBklRLcm+LcqXg9qgnmuYyuz2ub5cC06qSh8MWS",
  "FSaHLCnjLZLuNFYcPBbWQFKXcm6efAXFqCxRqNkorABGtAi23qql45d554Ja6XVl6vpK7imE8O4t",
  "C7cKDXbIXN95YB7TZSuyZWSGaOfmewZgv2th3hKX4xZW5cPM54Zq7M/s/hxG",
  "BnTUHfdgM1BAM/CTOOu+RZqbRkobV4KUXP1zfah6ntZPqd4ywbSWxhgG+ouL",
  "AsFjEVs5VfwNVpXIV4v1n2rEoEazq5z4sp7ouBAE5W+w6yl271Ba+/e4",
  "GUjPHb+7HwJCIMnaPp3bSkmlWDEYXRXEehjShPyIpQI46W9L6jYe/0ke",
  "CXZRIXxgMuTZNVOsT2VkWtUTXVNRbDABdSeOhXOdhoBvl69rneTyqJxzrBeIwv5BxeZg6tOV+Zfp/yav",
  "VHYRYIaGaC4qauuRpoQburAs1ylw",
  "BESnBZnbDdZ5D6rJQGr9SNM3WQWJgSQpmkYjv9bdxxjE3sML7w6r+stI+wKX+1vq",
  "AuaYCO0XChC8DN8pGGvsG8CRJdLOKPc+M1drQhL3QqEAT/JuXAEeXt98gVy1gr+SjNFLkBWmlZgZncpZuH/AzqT30q6E+gWt",
  "L5qCNAj5SWJJY4Xlaq6acgaKj6P5lnaCn+DEsOoLs8ODzxe81dyX4tkh",
  "EFE2FandOrOdTX5ITwQ5Tz6EUpKbU+72WUybZ2vJflmYf57djARokDo2oZ5Er64otp6Qub/j0A+9",
  "Bo58B9x5FQKfSmILS8H6TTgTTlKTUNIXU/J1WDdZX9OPZdUeZmpxftBKjC25mfK7n0vupM/n7ON19RoS+X0M",
  "Ea+DFjVZJlYvQuSHWFPiZVHraZvmgEwqjZmUk+rgnSCgoy2VrjvKy13i8/Jv+PnZ/nkm",
  "B8WRN4crPAhEcyKdhPVO2lUS5j4F56ZM6noo/Jgh",
  "A1sfE98ZWUbwWXivZQgUa/6Qcp9qeAW0fF0dnkNEn5ORoEemo1Ykpqpsp6FA02gF3kiu3ttx4P+R8Q/o+LAC",
  "AArlABjHGmj4MK5LMO+JMwFvWlPCaiMgdjX5gqSNhGG/i8tQmMbHrKV6s/hGx6p3x7SE2tRk4gv3",
  "AIBOBXO4BzL/G0QfIGjyKhJMK3FcY55LZvpYhyIejTDnk1pun/kqowOVo1efvtqs1W+R7t068Z0S+luC",
  "GO9nQm+PTkUTUqsBaiVWdndWiG8Px2Cgyg/b9VFp+hDJ",
  "BqbiDZa3IB7iNjvnThi0Ze2EZ57xbsNje2Jsh9rzoK+jxf775go7+ZVy",
  "Agz8DX5wE4BaFPuQJr+3PagZRJ5aWrwlZWpRgLTbg9JWifAjjNCvjwLFnTkGpT8ar83ruBPP5C509ArV+RI/+Srt+nAL",
  "EQjAGLuRIUghJZ8lNSpVRqUYgNmljDatmc0ZrBwt0DIR5StW576y",
  "CutyDEzLE5RaFB64GyKBI9QJJ0cEOxiiTMt5TwzEVt1GWSjtXBxYYFPbZSB6e9TXfHWDgxbMny9j1VQ28PoQ+Mho",
  "EHAxERZ8E9iaH7nxLAfJNGHoPVo1Uu+cXpOiX/eViwAkjAOlsKapyufk1tTI3jIc8MTt/zpI",
  "BEHOIblJO6IKRRP+TG74ZxK+dW3PfySzmQAPsem9vCX3xITty/sC0E743Ia14h4c+eOX",
  "E1ykWii1q45R2ONg61B/",
  "A7UaBr9IKhWrL2jSU0DpYuFGZSWqnCihnj8AqawIvLA/7OTu9Esv+a3Y+orm",
  "HClTRfibRyHWVpUjY6HkZs4MZ2z1az5kcICtcr5/nVFso0Jztbry2yb/33rz7wrP8L/L9CM7+rCS",
  "ArmdSh4mWDBzX92FYJD0gv89l31Ond4EoAsMqg+RriGls7NwuK6oxJsuxOzex7753Hxm59cY9aTa+iA//0h5",
  "BdXsGnE6JzdyOUUFWtRuXXq8ZTjgbfzxfI3phYwlqMlTtRW6yF52yTL+1Pgg1TxT2SfF3cuP4y+j+ODO/6Zr",
  "H+uYKHP8RsxnVYY/XlEaaNrvi79/n9TTxITvxzjL2KSS4PrU66+U8sy/9sKe+vmq",
  "A2dAA5sXC1DTC73dKy05QGpYRn0KXLcKY88XZysklKI+mkV+mr1qtlGEzOVU",
  "AzAMB51dEVrVG3FqHXtzIEpXLjEyO9RDQ1xyUU4XVZH2ZA89dkwUjNCmk516m8MFx5FsyucH1pAg2Fq74KaF8ly9",
  "CiUtGVKzLIazNAhUYvmsdzIFjp0um+X8nfRwnldmrXeQvWIRw7flx2A20bWl1Ugd8FNU/6q2",
  "Ak9kHYthPRPCRNTVVq2JdgNYf6AynWnSpfIbpocmue2HvJib4lOv9EJO/Nlc",
  "DCz1EI3LGVFHSmFmTY58XxYiX9LqZZosd4F2nL4IoRdWpI1BtLdjubnmzeA60Fp21tYT5Det5UNC5+9+6U5k78uC+EhG",
  "ATYFOS3qSg1HXOFJgNtxl2AYmxjynczEuRSN08w02UAr/t2s",
  "BUL6DadiWk/adKx3iSGUkg8ok+V4puvfuem2yu9T1wWU2Lz43Hpo3q0o5ld16HnC+0uS",
  "FzZ1MZMzNGqRQIK+RUz/T+kEUI1iUmapZCGBml3kpZyUssPutAWh2ovY",
  "GE2FGwL2afiWkZfsmdqxpltzpzbsrKTV1ru92HMh6L/E8D0p9CO7+PoR",
  "BHCGTpYEWYLQXvZ/YxISaYIecnftfcpLfhH5ijnPiwO1onvZ0Ssq1B+72CJj/sc4",
  "E5s5FKFSJG2iMEg5M52HRGrYRdCyUqpcVsXvZGnLZydree1ZhGm+iG5qjPfqkZJ+l3QjugXtwoCl8fhV",
  "FX4eJl5EN49JQxFzR+nXSVNwSjwxSnnMXpI7ZuQjZ55MdJbAf9E3oK7+vd9M2WU+3VVb",
  "AB3CCW/jFPrrLaFpPPdraNiBcIW2d3ZcfP1Bl9+Syl+s2ViR26aX3/nI53G26pza+m9m",
  "BjuWGCDsNSmwQm3WcKwCczpeg5y0h+EPm1SUpHtXqRWntmj3whuhxMaW6+Bg+5Gq",
  "CurNF07bLyxvMLMMNkW+ckM3g5SpmnZKquw7yEVr1VOR5e+5",
  "GQ6kNtxyPewzTUG6Z1hEq/P+x8I42IuH3TIg5CvN8MRI",
  "ESOJKuTYNHHhOPv2R3WVStmvT2A6ZCy0aNfbcm1UoNPbpUnlpVc2w+ix9uR4/azo",
  "BOrDIpx8P2++UsLCXU5h3kOs",
  "Br6jB4KmDKMbNHcySCiTX1UfeYpYgAYWgewgghyBkN9clg2wpe4usHDGxha81ARj9Dev+a0z+izw",
  "AFb4BlXUEVT8GGjLKdr+R0twTgjiUt8udBA0eJV/fr18oHIso6Lnq/h731Vv4JVI4veu9CKW/O4f",
  "IAx7KOn1OGn4Pk5wQJsVWBRNcj9eg8WVhfTOlwW8on0ZqP63xJqJ8hfM/Ctp/rxY",
  "EDGiFBwFJ17FM5dqOEpoThOsVCmFWtPJY7FRZTg7c+vmfI1EoHMoqLqmyYVmzJA44W7I49TH6Rdf6V0r8SF4+OAp",
  "CHvBEIfyGqNJMS4DM09RPQKwQT2KSCdQXTE0aJTLbJSxbntGeKllgxS6llEyqytxvk2hxD1+2GbS3ofy3ohl52cN6Zv98Wfd87Nq/KD3",
  "G+NxHdd9JBkJLp/CPuWpWvi4XydLZOUaZyp/a4OFbvF5i9H5lIsslju+pKSW3NeF4AaZ44tX5nH+9WMg+rpV",
  "E077E3RlFsv9NNlaS38HUtCpXswJcHFEljLcmcGmn6YeqS9CvD2D0oVf1xat",
  "BtcJGVfzK4bkLtt2NCYHPo9KRq4dUIf7Y4SbZFRCgkewnlbBud27xv+D4ZeV4npg",
  "HcbcPjgJVXXuXJFcY2c6cLVkeXHLfbeJj26hnWktry3Mt4w04K2u7bpM8+HK9Dr8",
  "BrTBUEU5U3pnVMtXV0yFcQmPewcVghippNvZvlh35+7Z78rd8zMj/7EA",
  "Hp6+IIzjLF2UP39GRQ28XHCgZVChfKWqhbVxlFtyoIuOsMjHvNsWyrBK0Pz04Ycu48bj5wul+PiP",
  "D6aeGbaaKmNKVKjkbcE0fCszf0aNlnxmlyAooISTobVWp/hCv8mUw0Yl6rfz+BfP",
  "Ek43FArOGINHIEMPL68CULTkZ0LleeHch5A2kcbsk1VUnOu1sppZvyM5wNFlwtx8xBl90NC74B7/8Dvm8r3c9x04",
  "Ay+lG4krIIUEKV7wMoHOOKwIQ43zSUuYZYOQa9IOeqSzgTMih3ANjrNfn76E0C/q6ET3/MCA",
  "AbJhBzG1CABhHiKhJSmRK3ASXmO7YxFtb4sOhgXZi1z5j3+cnDO6nm8nrqHyw8+mz0Fm1ffP8BZ+/8J3",
  "FNlfFUQdTUgIVsVKXKnCZRRCcyg8iG3FnYGTugVIxl+5yPcKy1IW9FNi",
  "BTeLBowpF9a2HgI9Jii2QD6uQimjQ7XVUF2fU6VrXUY3Z/1teWcrrxQkuYaqw/C0yjG+4ZkS5rGh6Ac/6IDp",
  "RmdQUr54WZlOWy1SZWkHbdWqezuIfL4Ql97tmzCzpFG5pKpL1H9K2Vfs6RS2+RD1+m7B/vVt",
  "CzlCFhv0HIdhNKp1NSkLQn1BQ/YoZNMPbu9leR+KfRhqfXYqf4/DiwxilHGSoS/Jpk/Yud/K",
  "F3d2ISTeMar0Rd8/UDXzVjXmanhagjIlhQrDkhUatISCw0BFzfdXzzYV1VLs1eWW4Ddl",
  "Cb3RDQ7TEScqHJOeLwJ0TKNGTUEVZIKuklhMlm/7smYq1tN+2Iri+bqX/JHR",
  "CgCRCmw4KnZjLxetMzm0R9/yVU+sXYYWYynTaNc2a4hpcWvqeZbOzvRR2B/27oiO9Z8J/9rd",
  "CBBoGM3JHipAMG1eUeZog4+tjtRY11qn2jBN2lz57BE99HJ1",
  "B8Z8DKJ2FOchLTuKMaq3NHaNQBJcQD6kQ//oTOqDUnkIV8Bih85ltASbvjw9xsRE0pYq4IzV7RL3",
  "AFZTHMcVUt6JWQevZ9xgbXhXmVQX3qKQ85Yx/CXO/w3T",
  "BtzpB/LhCXn0OEWzQYBmUCU6Ut2mVZWEXY2PcYN3dNlPeAXdiG8IiKvbkboflqYTmQ0Jm2O3p9dkvHXUxJnkye3X1mGT6dI+9IEa/4lN",
  "ANP2D+meFLbgF2acHYDyL6QBMcNaMtdvNJq4bgHHkN6ylOm+v1QFyy6k1Bzp25iG3dL/7gWH9DLJ9Ste",
  "LRjSMJCsPQILTVl7U3SuWB/Fa6rfcmHmdOQSk4KplB4ApjyFqqkarcMgt/Oru+q6wOT+zw5Qzycr1NtH2KNI4zAz7KeF",
  "B+Q+C0+JDRazD/gZLh56N4dcU6J2VqOCaO+cbKwhfecrqxUOteF7u6jKzW3e6klG",
  "FKnAM82uRtbpShzzUMV5UtqDVTQXXj4rjGFwkfNimcEBq0Ultt9Cx5Ai",
  "DLrcGVdOMXF8OBqOQnaKS2OtUJ19URn/Vv53e1ANfYNXkXUZmneeqC05sEpDwa6+yN0azGLS3sV037gq4Liu5XC6/6ls",
  "AG65b/CXc1SgkEN8mA+5o00AuyhhxQXX0Gqq1BTB1wjG4K0J9EEE+h7P",
  "NNtBOR6PSU/plYuQlaHkxknW21Um4Rew4sXS7dKs78o4",
  "EGnEG05JIIw+L2pPMwwCTsp6UsAKUwqNX2aKabxWbOu5cTatc5n+gol9hKzvn0mArVgi1DVP4KGg4YaJ/txi",
  "AomYD7r7GgFOG8N6OuPoWs9BdKstjTGZpgOgqcQMt0MKzPS92Luu2T3u3qAm5MlS78a09Hkq/X1g",
  "BKGoNGlHQKU7SBfFT7s7Xz8MfMgAyDan2K0F8j3Z+Ln//v+f",
  "AuhQBRjnBwW8B3q4C5EHDoNUD3WsENm8EdaOMuSJM+YUP4N0XmkfYcxPatjzd6MDmdlnmuL7nJzvn9xCoYEdvzAPy6dRzYlQ0QHk1cIv+KC3/nD8",
  "B7LNDNNCEG1YENRvKwSvLcbnPLJpSZv9TinBVnyKaPVAevqWjdryj4OglHSv",
  "AIcfBezwCYhBGlquLHS0M5w9XKkdZk7YaAd1bKi1d4mBo2Vm1QE83mdO4MVv4wRL9FK9+jc1",
  "DnAkKbnJLO3OM4SJUB9FUFz6UjBaWJpdh1hijXnSlRMFokvMr/Lo1kDD2x8o7esS/Q6H",
  "AQigDoZmD3KlFPmhFiGQIqqwNVYYPIyZXDg8XlywZWhifL1rjJN0k3SRlMpQn2HmoKNPpt0qtpuy4Z7v5HoB5Khc+RBQ/PIH",
  "ELzUF9nwNShmOWu4SNjuSuLUTyfuUwtSXqNDYHYna9ure+6mio57loFZnL6yp2NmtPp/uEt9xcKUyUGM1Djn3riM7X5I+IrM+Law/NOR",
  "FLTBHImEIAY2ILBoM3ARNIGtaHjHkNEYnaNMsqy64DbA7QG27usU+vGC",
  "ALL4EjnbFwD2GwWhPFD0hVYjlgngn9ZFsmWF2StI",
  "A4JxC7UtEOULH9ZEIdIfKnW+L+fVPL2QQYCeStQATN3BYs9KlEzMw+dnx8Qrz3dz9U4r+rH+",
  "AJ+FEVGxJJaSM7SjOl/GXMGDXXWsZHF4Zcqfdq0NhQ8Qn9mIoNxvqy1+qzkJvMgdzJwd06581EWN69mF",
  "CHSDNHXoRJoqTpoTUFYdUHVgUnhjWQ4EaBUuf0yBkdDhlchxxHFgxsOf0whr6B5S8B5s",
  "Dp7MEBIZGT4WG9tJJi0qKHEmNreePFFyPsBvQnt3X32WZOIsaMXMlf91nZ1/n3pMszsJuKcSwgel31Ql4bdV6VwD",
  "Bu7rIqqKMXaQQDqRQSzBZP2VhhNAj1j0mepzoDpouCJRxJk/yV528NbI/j+7",
  "Fb1NFrXmJa+yY54Qi1xMoHHeqihDyy3/1TEk4E8m",
  "B1UBFBYhFmBIIZ3KL9nQMX3QPQFmSLGFS9JTT5VTZ/jCdv//lB1blLcEn+6rsJyMuRPguVe6wgNly9gd3ocb",
  "EB84EFGNGqO9G4UMSczJZQp5aGO2bMZ/cZqsjUEGo8EYxJkB7nho/ngh",
  "BYbxB2+IEP64ImjbQNv3WTwjXNnpiKpQn6TU0kE93XNh+zTm",
  "Fh4OGVapHU4XPVgGPu6uSAA+UI3GVn/+WQenbtN2mnb5qeej2vkp9NaK/6jH",
  "AE1EDLIiDrcyDun4E8jCFIzDL/POWKa2bI+qdwBWfjbhi6UcpU+Q4nIm54zg8f4B8rJA/mN8",
  "Ahl+CDh6D/xoIPR8LB8DLFNQOE97bAx3cM/McVgsfKmQjkYKk+QFlYrrnkw0vVjU2cGf263J4uij5ExV5RDR575X78mT",
  "CojIEosIF35dKRcsW1f9gojYoIpEqMKGtbxp4dDU/tu9",
  "EJkoFUl7FlzvF1onJotALF9NQjvea8Kgfihsjq+NmAsPr+r3uJhpyQnX1QL11t3H2LsJ",
  "BusgIyq3KlfTLMy1RAoBVWx7WhfSZSLfacoGb65+h2dNujhIxpAVxu5+1cr/61kE",
  "Bg6sEtz3JmtzK9ToMG0sN3+zOFpkXmh6athOdqS0n706pPY0paImtxlPu+v21lAv",
  "DNKdNd63UKYsYDaYZuQggnCFi1uvlH+ul7/ow7hC2u/z4RYg/8Et",
  "CU1nDriLFXJvVrJCXufCX+UuY5gahZvAirVxkNDyo2TB+jaQ/z36",
  "GLyfKW5XMFTcNy5BTn/JT97DbI82hI+Ri3GbjYwMlJ2jlzLEqihWtvi72R1G2x6D7Ew67a0e7ept",
  "AtCFGM2qLn28L1p0MwE1M7awPew4RsQYT8pNVOgEVVMCV2B/XDeXXSiRXtQaePH7gqE+irzHt36dx+vS1E0Q5NRk9N9m/vQj",
  "BZu4KYnDNH4YRuX6T8YfdluPmjr/pak8p322zAjp1f1I3Cg25wuf6iSY9EWB/ahe",
  "CBRlNIEINtP/OKzOWjA4k9CZmqGDrAbarx8KtIM4uBV42FA89Ond",
  "Kj3eK4BNM/3VRfcOTlZ7dcZZfUSCi//osmTgy78S0/kD1GYl4Wy947AV+N46/YjE",
  "A19MDOsDEtOSOXseYs6laQ0BbNqWdubmkVx6kubGmqfFm7JAtgYmufLfxz0W++OC/9mT",
  "AJ7gB8w9HQ+iKhZxM7P+OtmQRf/VWFZaWcBIcRuhe32Xg07SmQcco30ntabUu6BgwGaFzyet33JQ5hec624d9Y3U+k72",
  "A6VBFhqENHVDQ/6eTNNRTOk5Tef6ULVOUne+UsLWbpNocfp0i/sYu2PxwBNt2bY05tPk7gLT7mAW/rKC",
  "A9hQGzJ2Sg0QU7tjYimTb9u2grmkn3mnus++vEkgwyug26lv31OA4baw/wyJ",
  "B8Y6FPkeFyoeINtxLY7WOMdLRm7/dLTqjyT2mlNlqKSIvh7h6w3X",
  "BfK1KUGuKdzeNJluNhOFPOtmRhYxXJddcPwEcf+YeywIfVmmkofqrnwksyShuC3eyDor4HQy6be38O2L+w6x/JXd",
  "DcFtFQJYFewLIeGXJTpJKJH+NxSGPQDBQ8V3SJOzdd6/lkMunwdrr1uisHYGwgLAz5bU3oZ2+HLq",
  "CACdDyT5MD26WpmpWqMuYucLge1HkXTgmsArzaSgzxmI0/V57Jqe8T1m",
  "ALdGBYZMD9ZZM420M8xkU0/sXNlEehjvfb2jlIwptp9lvGkvxfPX4Yht63xw+mdc",
  "DvP5ETcKS53mVnGZfekZgvpokx50mQnjnWhdrkSAu8782AgP4YVs6HLb7hs5++Zs",
  "Ju1+M5MyN2r8SiV2TrzvTy/0jC5SlM4Wnshgn5INykMSyv0632vm4c8W7hbv/mLX/yTv",
  "B9qHCRqMCrmXOk3RbCZJdQNfrXPmruectWLHuLo9x+m210zX3uiz",
  "BOo1EGoAHWIwIIr0JLCtPrFKcJLtoImfoy3WpcKZuPSevLxAxVOW00wR3DoM37lt/T8T",
  "Cm/AGumqIbWLQk4wRpOCTicjT60UV1McWc9fXUKLa53fbXfzhrRijTBPjT23my0dnkEDyUAmzBhTz2rq3p7c8czS9x5o",
  "C0OFDLr6H2T2MzM8Na9ROx/9TynhZSI6Z3pAhD20h72Qi3yYmDWVm11lnN/pnSs9pJKGzMPF7YxQ8YzY8kqM9K6n",
  "ENhyEewCE9BbGP1LHUBuLHjJM+TKNZWdQ41iVvUrXPGqYnZyaBWOatepn7yVoDeirO3S065w1k4F6/V/8mDW+aK0",
  "Be+zB2d2LeTURpOeUKWHUf8oZa4ZgDLwg1QIiX/TlH8Jl79DmHfhuAQ7uRa/xCA11HMT2QLv2bzE20Ls7jOf8VA6",
  "AWbtHB4qM/zxNrziSj3cTW6vUDCDbKdrhIgcn3F0r8rmw1xszqCy78/s9PKg",
  "FSmlMveMPwrKT66DZS28jORcje7XlzIfptj8t3wfux2lyFNS7ax5+NWq",
  "D+qpNaDxPlY5XDbycv5ueLU1gnoNiF6FitwzjzhalDx+oKIFoZLhuoUxwXMyz5gM",
  "E4C/E7rqa9phbaf2b96Ggjq1kWTslROJmbHlpVfMtDpX3rdC5HIj5wr66wpF+3cg+/H4",
  "CBPAD0AzMzOAUa6EWi+TW/VVZTqgcjjpc0Vkds1Ltpkiu3hb4PX/8X88",
  "B5CNC79VFY+tHnIoJ2iSJ8miLXYNQwWXhHsxn9T7smQ7+bsa",
  "HDVzJ3C1RAHWUobSZbZRa2P4jeeylHKrtJfc/lTL",
  "BoKzB5PIIFSTIPCwMAXTNZVMRP1eV9dgWv/8ZclVt+sMwNvLxoVL3cNM4Cj150d06r669K8O",
  "A68rCRWVERkMMtTHUncZf19ng64nhcGfjKyAl+G/nRTXqcn5rYGEtU0H1GxR2p+070jj9t3c+O4Q",
  "AcyRAmR6BRsBCHa7GouOM7OXPVKePxuHQF8lYCw/e8J4gyKhj7w5kaLRmajqsbo7vEh7xlGq0tnI2klJ55qD6xy59zeG",
  "KvYMOdMkPobwQxMFRDBUSHe6TTxEWGRfXAS9ZPxLfFFUgkmMpUZJq9Rjx002ykQLzJyr3s+o7f2k9w8u",
  "DuP5E0MTFlyCJH2HVcQ9Wkf5YGouZZqacZ/5rvgBwUYf1rCZ18SG2QJC7HW59lxZ",
  "B6jzDcDIHNIuHnoOHyA9Ki0DTMvUT0Wga/55dd4ajOfNmb8Ln+1hoqBHpxVZrzS7xvJcy9bT52cV+Pa3",
  "IDdIKB9XPkRZTGS7VqMZXje0ZZlAar5lcDzrkXQ7m3tbnOyjoQw/rbfj0+lr2MSC5laT8pTY",
  "BYWnBpsZCkizHIhXMjlOYYklYr0XZeG7cd9BoHeD4xcX6gar+Ymp+ma3",
  "EHgBIzcAKftYVbp/VnD0jaYxkx3PnS09s01ltTtixMaQx+Gm2U1t8WgA8/8M",
  "ApVuElPiRNWZSoU5cqoQlTagnbnVwG9txTeG57Lp/mIy/yRK",
  "CRnnFliEJydaOF4uRMp2ZRSxaQsdenQifGm6m2sItPGLyDpH+Lyf",
  "CkhxCs4IJLAIKfnTL8u6Mhh6NdCySA/5ZUbhZo+McEIBcbwpk3edsmIOv0eCxGDAxxScz+Xy2IBj3Hs53kGt43Ef",
  "E2IFKMj+Zwb1apN5eLA7gwKjiKxFkJPqmpk7oAXHrTwwvUF2wK/J1fsC2AAb9Osp+iyE",
  "Ab7lB3kuJqqFJ37PQzhDTQO+TjZyTwyTZeqMbc32cUvWgp0WpVBEsUxW2Gmn43xo5Rk3",
  "BaoUL2QjL3s2M+QlR+pJUc8CYtV9elY7g4L3m8HNq2fZvg+r2WC04pFT9pdx+n8d/RKk",
  "KGuKKjIfPhwfRJaLVolaYt3eZn0HfNFuf3wDiiQPl76emmLEnUWjpdUYy5gu29b65Jzr7B4Q7jL6/KbH",
  "BApRDAjGLF49LgNtSj03apUNd11HmJUtq3ql58tP6iVT89wO+7zA/hSw/zyw",
  "Cq8zDjw0GxiJOmWSQq8waqFxm6Y+qs4NwGls2Rv82x057avU7c10",
  "CaMYPU8VT8kDWiurXDZNb0nPgTbyhnlNnz4bsDvTyIpU2JjJ9JbI9qMG",
  "HVa2I2T/KYh5Ma1SOWMuQF6PQdBZRSjQT8TVUGkzYHTVli2Ol9QPmjm1xiIl5wpV7d5K",
  "EIEPEgU6Ftr/KakLNFExNgVvRpTbUc53W/SwZk5fZ6URiqBRkkWwqwpCrKB6ruhWtph9wG1rwI0W1peO2E7y7TWx",
  "AWZbCdH7DBNbE6jSJFX7KKJlKS+SM/yLTIJqVrW2Yu3jfaYcgGT9luqMrqPHr1mxr+Y8sJGe/7aW",
  "AmO4DWpeGYsYJvZAN+5NQ9rCSFX0UoYtVqHAZ1v/a2NThEWPoFkVuBv8uHPaueG+us1Qv58f2Dg220WG4WiL/Gnu",
  "FVnvGUV+HPpmQb9/SlWdVtvxgHwigX+pkJawttIHzNUY",
  "BNU/Jdy+PTINRuvvRvyIS7VgUSEGc/QzkMLrlcaCrJzZtUxiyGsTz5Vm2TRi",
  "Fi4TGsgUI/GLK42zPnwGYCuaY3iSal6LkvcQqJNIvEfWvILKwypWw5UExJGMxUOk2Xjr+oVq",
  "BFCfCvRCDjZEFIzlFyqsJ4uJLSj2NUaVOPZBQBiZQHb1TtuwWCgGXJB6YOUSYvMZdKSMkcRHmlIboLYUoXB2tb1Ex2uYyCE8zqvF3s8D/tiK",
  "C1HEEej4LYyxMhGnV4VbWdzYbVIJbl4IcegNkqIXlegumc7onsVfpFsyq8/PrJkMzv5x2GdY",
  "DT6tDcAjKsCpTrG9Xuq2f2ZXjSR5oaCnpSW2rzQWwgF2ylW254NO7wwv9NIe+PYS+RkL+k8U",
  "C6NXIcWcMDxwN+GKQbmeUp6Ta8QMhojIx1Qy8pQz+VLl",
  "BYUCBcvMBnmkBpp0DYT2KAx0LSZESm4DTYkDUzUhZeEWZyphkLstvMQRw9YjxfKNy8Ybzk3K8HTT+YkE",
  "EE6JVcgqWXluZV3jcUZ9fplNf7aJgE9fgevnjaWMkx0qv2Om0wal2Wuo4cTI8/5n9AUU+QXR",
  "ECKCWQBMWxyoh3tTiSntjnDiqNqItOrLub6b+UNX/mGN",
  "E/fWOpl2QYYcTm+wTpo8UW2/ZRQMfGkVgqaKhAI7jXjcmmqBvRzJ3udp9IQt+Lv6+xDN",
  "B7pBHh+4JhPwOQ15OwyZP9l3TsBshz2qj07Up4PCqn6jrxkitGggwuqt7Jly7qOD+RnS+k61",
  "AGlyB8C0KTrzNTheRXMfTvzJUF5EW3ufXwMcXx8jZwZQasB9jK3LjTzfk3zonkamoAUir30Msd1PuDBe79+I8Y528bCC",
  "BB4kEEmsE1A2GS+yIb1wJ+wVPl6QRaNdUrb5bewUdYjsd88NgpxxpU+fut7pyQde0hia3NSP67Tb",
  "ADeUBrLaCzz7FCLVH0eZNAdPNeEKRKiaT6DFUys2c++kfpGAqAhE0U8D4uwe7zTZ+aFq",
  "AqmjMA7KNU6tPXwsbRixcIqQf3IAkD5ckyQpl735mNcynUT+rXCT4Il/7Vzs8zBt9BbN+R43",
  "A73eDbkTFMr7JnAdLIsVcOVgdOlMhIbShXo7mJSImp7uvjRIxjKG4Q0958qq8B11/Vyh/u/n",
  "D5GGHnqPLBIMMDRAMi49QDt1RZ1ZSRZtZSxyfGhMfIF7oGdfr/1zsppIxtqG0NjF3DTV7asv9JLw+NRg",
  "EHrKE/pnMPcfW0f6iop5pKY7xHiBykG+6fjf68Z19Rho+iZ9",
  "KbkbZx62ag40dz4nhKk6lP1+nJXVpjX9qA50qddWsfW1vqNIw/VOzS/G3/rQ4tKT5CKV",
  "C3H/EHHuKVDUP4nTQtJ+V3aGY64IeoCEe43lfuQfn5pVxhev3JGb6OVO",
  "BstAEgsyKTyBQ1gjTYi0Yu0+cEXHdvEFm9mOnkr4rrNxtr3uw6t372tC9ewP+bnQ",
  "B4mgCyZHEmF1HGEXPQ3/Ty7XVqEbZPATa2KunV1ksTpSueEZ1BdJ53f16uFe7xk+9C8z/qsX",
  "BWgHGh3OIQRNIlMfQyS8UDlwUpsQcZU7ep5ZhwhDlXGXq5Wt0vJ75qyV5+MQ6/cU",
  "IUqGOE5TSePaTqB8Wx+vXJYnXdjXZUTYc3aXfJnhmwyE2TO96PCH+OzG",
  "B8SNFFLkHBU/YCr1ZDRRacP7bZxobss2cgupd0I3mlR2poU/ppD5qc0oqgtLs40f2LCK",
  "FyoHKPGaTCYcUo9DZzcca0sqcb10g+K5iLVktSq64BM2",
  "GF8HJHQeRbAvTsJ2YG0Ecaq9eW22u493voZFxlUI0rnX0vWA1q9P2Gaz3Ezu",
  "AN5eBuOmFbUIMpvyYwWkcSh1cwmefCcxgROghyY7k4MknmNen5CprzNxtwVi3Z9O70Nv+PVt+ySN/goz/7au",
  "AjAKBqx4KDPaLLAdMDvLPhe2Pv78VrmBXOJDZMoQfyhdhBz0i5sdj6OBnXXKsN2Nubssufl/vDUw3AFW5sTx",
  "BmMDB5AZDf73IYRNNIJRODR3Oil1SlNUSm1eSr0oS6uLXWFAbqqiu4X5zYFE4Gim5EGK5/t27beT",
  "MYWNO5oPQu/1VSBnWMigX+i/ZBOGbFO6kxyFlTNtqSiAscGquAVX2Uwj25Qy5DPH7hQ0/umk",
  "A7pMB/yKFBVeIPvyPTRSYdhOcV9IvQs53aGp6a4P8B2Q9KkO",
  "FcHxF0JtMZ8rNHaJPBipUrClbd2Yd+NYmmncn2aJwzLByDj9y/cR2aFo+DMp+xAo",
  "CTFsE2c5MUqZOGhLOnWjRR0wTTVMna5wxpHmzuoh2H8Z",
  "B8APD9PqERFeGxbPHymrI9NgN70UOdbJQkK4S97VXwJ3Xz7oYx4KegJNjnfSn3KF5wuC9Onf",
  "AhqbAzrVCcDMD1eEHdYlJxThM6l/SfjEUrZUVtHnbQpudZBie4c4pU76vmLM/T/w",
  "Ap7ERlFYWaRkXuBHZReqaSiodogOgO1mhsbCmzpGpyDpqhSrq+gKuZ7Dw1Wg+6Ae/DMP",
  "AEqKAabVAogWBM6XEDv0RNxiTC0WT/5DWaG3YnLHgKWuhZ/Yx+Az2B5R2OMf30kB4Ija4PPu4ZKT66mK",
  "CydnHNYhPkJcb6/wgKa5g1p2hIYthXdHlu4lmJPjp463stmbtzLH44OA6B9/7xtO",
  "Cw+gDDniF1rTLUOQMbeRNI7vTD+jWYsuazR0d88qmVU5mYmPpptYqe/ererntvat2bFI5Qsr9HmY9luA9pyU",
  "Av3cBaXhFZgKHM4rK440NvwDTU2yVBwilR2KtppWuTN+2Jd/3nv33+y8+hkb",
  "AwZcBuJJDyygEhQrIuxLKbh2M+oIOkgLWKXPXxrdaOPTlixEw/JWygtv32TU5Jly",
  "EgPwGvuOInT4M8HlOI8ROxFnUs66WDLwYDi7a1IMeQIQe2yrg5Q/j0Xlku6Wm/IZq9QwsLnqxGGi",
  "DBIRDK8THTPrINMzJPWiPC4WQRZKWgn4WqEyeAqLnXz7neaP+bkr/ogC",
  "AGLwC0/QEdRAHrd5RMITVaDHZWqqZlzYa2IJbISGeDAMjdWznU0Ho0E3pBWhzKij21E632Fn35TA4KFA7vjx9C6O/U9H",
  "Ek2nH27NQXKUR5F8UDjLXdfhdlEWnP7pqYuawIqbxMi54aPP7cbj8Q7W",
  "BEDYC1q1FDAjML6HOwvpW2yHXWDiZUQzdd3sfJk8gRXWnfkPnz23oH8g1CmG3u3c4XrA5QEZ+Owh+22v",
  "AZ48EJilQBZySEk1YCpQbCvNbD3thQPfjKPEp570xJBC3pRd",
  "CpijDtx+EtqOXzNDY45rZzZ3gWMGkCGMsnqD4BKR7mvC75uW9smL9xDK",
  "GrINLwDaMgNoNql+OgL5ZLVNaTaBgeglj4Gemc2em91Wn7IWt36pzohJ1h8+4nOP+hou",
  "BuMBDxbuX1g0ZYsHaOl3akb4fgkKkkgornZprzLMspcA0qGo4l0P8pqf+PTI",
  "AHtWEEk/FV9CGHAtRvg7UgsqU2hwXJ1UYw1gZITOaqnaaspxkrdpk7J4lI/ZmRBonXUlrM7x2jew4Lmm7KEx9Eb0+aCz",
  "H7HhIRwONdx0PHRSSL91UFExUi5pZ/D/aviWbN9/f8mqgAyFhcMVo3OppWKxrmSUxjSiyO2o4rz75/rR9LNp+6xp",
  "AERMD1MNIJjbIODmIvwWXeW+X+2OY8aRZL39ZVyZaKGdcvPvfLGijc3Bn1YdoJeGqVDMrmyh4ZMm+QSH+cDF",
  "BQ5+CxXwEPpoF84nIoZbI/WCKESQVyLKZ4N6euKkg4iMjzfp01RU95y9",
  "GY5lIE8ETH0daN7cdEwWkvQmlNc4sVHuy1K34Cr3+w+D",
  "J07yMDknRRyLTr8iT3EkbfSpin1jn8p8s6FMy7Pu8cn9",
  "CwvFHVpPMzgDNrrdVTeiVdSsYx1ld6kxhGgoqH0dta+Pv01mxsvq0fhb0uyD",
  "HpBGNqHLXLW6XlKQbLVScXingiDhl9p2mqqsnuYlqyG1zU331veT9F9a",
  "FZMWGOfnHDwpHSnoOR6XP0Z3R9wPSenHUGmXXhjrXsRUXxXuZfDpZ3u8aAllcfqpgOzBmzmhwqrG",
  "BM3yDpMDKcWPSchnbGt7cnZUdtwne0eAgKYbgSXFgVqAjw1zkBpX0wC12OJ65f6F6H816P7H6uii7Vx4+Rzt",
  "AXbHCBRLE5BNYtszjzuRlQxVmJM+mUNB0d0V029Z7Ieh",
  "ETfmE0TZF1ouL7TZMbbsN9myR+MXai9ZdJamh2kvoGYVpZ8PqPZqqdpFqtDnuefoxJ7L3NSG4ENd9lrb/hUN",
  "BsoOD5qvLvQELw5sQ/cDTU0NY/k9Z3zua55xd2dHedJOhBO0jPzojkBpjqTNl3Ftt9tMxzty2Jba4gst6feV73aG",
  "Az2OBYB9BsbxFPyiFrZzKbfRLhlLM5wCQYKQRsChTYipaOMuaPwJcBn/guealJmyuUBlwrwRxmvmySDd54Bu6x6p/+bV",
  "Y+1zb0sif13ziP33n5kLrhSCuuCt9Y2g+SiP",
  "ASs2BhaDCk09DK5uDPuAUIH9aYuBaxb5mmswuAzDxLax0kms3l954zOe83pq",
  "CgnwHdRUIT6tJAoOJQnTJSedKF7tRfOXT3rfVfKkZcI6fZsykH8xmR+9nUxio0CSpA5Kp7vSzjl2z6a04mZd/Jbz/tNb/xnL",
  "BR1zDPrMEFyEE7kLI5JfN2krPIs4RD47Y9daclQRfgrbfkWcj6AhlHl0pNLmqS8bqx31q3inxWll1hVk7cY+",
  "AcUGBUl5EGiZF3KUJNgHM5F9NKawRp/pUdauXjtmczm1ffJafsdOgn0Po0wD2ASf7tea+p7B",
  "GL/MI4HmQ/RkR6xlTWVzcFgKj2eUlep9vEK3x+Xxyhiz2K9A7gRf/re0",
  "B/A2MLYjOnIuQkoXTRdaXzKeYwpQaPuUgSWBj4d4tF8JuKU9zBfE2QGW8QGH",
  "Hp9dMKUcM9mmN5paO/xQPuwtT/o+WKYSWqHmXXIacauFdkSefnNQmcz5y5rj0i1I6S5R7VGW+LoL/2Uh",
  "BIErDMbUIN1dKyIjMENRUTNvWr5DWyE2anT3cKSZmoOWrWDusRpEwn9vxZw+zsuo4lxq68GH81RI/7Vk",
  "AHqxAi7AIpvINgdjOGIXRdumS3bSTzTMWKH7d5yWfqKEkc4vo1j4pX+mrXAJxZ5Yyw5k4LkB+irH/PF8/zIx",
  "EnCpHHGIgjbMiNaUxeDsyRj47d6k",
  "Dnk1F4r6F68pHJvGPURDRFeDWQkGaLXGb5jWcvNKewuhgpV1n1V4pSdYwwdx1EFH4ZKB+4ar/uha",
  "DZAgF82CGPV3ILdCIa1JMbIBUEKhXnzcaDagkuksmSh6p3Ht",
  "ChSGNHU/U7MtVvB6W425X0sEiN88jwoZ3w1E5FIX5rDB+w7e",
  "CJmmCv28EdiZM/IMNZFvRRvmSEbeTr59UwpDdbqQd1GtrI/mvPkIyOfa6WcQ",
  "DN86FCqBFaqOGO+yLD7rRJ20XuCHaQE4ep1+fY2JkKh5mpv8nk7Evm7AwN4qxstF1WeT72mA8ktI8zyx/83K",
  "AJMXM2mFM6g1RPI6WxpBXLUViYguo3Fexc+ozqth3adO4NFn61hB+kMt",
  "ERLbG5N7Jr4VLmXYNNrkR8jWYQsyaAjAgOwcmzj8xAtL7fcK",
  "BM1NBRa8IzPgLHceMj5sM28DbADIgY7jgq3bipRdn23eoiOPqWpnsS/PwuHH2rry30e34arn+RxI/wDA",
  "B4hJF+XoLTa8a+eja/wlfx0CiEetk3OfmEcMnl2cotzFsNo1vNyJ0cnq1yio2p2V3sSE39qF4OSr",
  "Fy7sKPi3NI2lNRO2TSgJbrkuoGVwrt1jvtEM0e6b0jl24EK45E1+9lo2+E/G",
  "cJHvcggDdOkRerpOetK1gNvLgz4iiiiukqS2mIE8tquSuzDFyGIo2ppd3V/L3nqt79GC/EJL",
  "AratBAZZBEvXDJbLFrQDFtF+SswLTwWyWI+oXd80YY63YttCcAcNjA6elckbluwdmU7pnTpEzC9p+wKi",
  "AKt9EaBFFt7WHyS0M8CbQEccR6ZYVuksXM17YcU6ZdaXaRIKfEW8kPBlk10In5hmpNFgwKzGwUIS039Z2FmB4lYE+X6F",
  "Cvq8IMRSRo9lUIFYZQeSZ5h9aUrCgAxgxs+X7g9w/Kqj",
  "IT4IKA0+ShmtUIm5XLlVbIM8cyQWgYmjniesn4ZEpA2lpTrzpgCnwh/Y2aC/32Ad4cNN",
  "DBC6HE81JaHKKeZsOVloWHTvZQmNiEE4q3gCrQsxzhzQ3tzq47Ym6Aqj+LF7",
  "CDloGamRHVZnIuD7JcbLoH3WpbbQwdYBxif33uZT4Fse4KvK78Fh+wnK",
  "A8ZRCv0dDd1AE5a7JIuOMUtbMlMETgT6VQTjWP6SX5ALcWKUjyfKlM3Yn/qjrCmztKbI3ku83pMT7t6z9aKT+cl/",
  "Bwq+F7e5Iv1EJmjrN7ZtOl8VRiZXZRZxdU24dmIPes5Kiqdav+7UwYSmxoOn4NHQ",
  "FOMWHBGXLv+QMRnoSB24SZrPT/mZXOXhXqOeZ6BqggHNhFcChdRQlE2kn7DMpxCAsc/Etw4GvYC0xgB01HBc2C9E8snx80ES9JYu+Zbr",
  "FfmyKRy9M/jhSaUTTi45UJm+VbxOWr2eXsEQZzvRdRAZfi8ni5IHq1tirjIksRmfuk+12YzG4lvF",
  "DsMqFJi7IAORQwNfRH07UnNFnSCRp6z8wLec0+QV4n4e",
  "BN4NCTPvFLMyG6ZkI+WqJVzlJqUKKjtYMW/TOlpuYj1WZSHzjIhRovHlq2k/vO6W0k1z1Qfe3TQ+59P48Psm88kk9JCv+Mnh",
  "CIyEN56SO2JPT7wkWQhhi2zKmYS7oJY8rEFBrWhdr/116cXJ6q+n8bet",
  "CADWDgIUOa71diIhyqzF2sgh3qt53wDi6/Ez7An0",
  "F76YHTEyMO1jM2c4NBmKNlunUbdFUsotWiPKlXsXnCp8oEJzv2w1xuDR",
  "BCnIE5XaPYs8RRtBTRgUVKUGYJLka9pKdbnrdjCShofskVxolm7ln8kyoA+LwET2y7Kk+FWp",
  "DN6VDqQCFwfMG1IbHfw7RqN1Sx7oUPv4VwdocTBDpJNSrpUVshHMv9V8xXqi89R39vnT/80l",
  "ALpVARq0BnbqC14eE8PvKFxuSpj7UYbRWDHsYxlUnWUht/huuwr6xK56zvuH0UpQ+kKI/0ny",
  "JD42La57MlocWtXnZzhnb5PodK/GgOt3hxWWiZOLmzhXs+MdtRczx7132Sk+4wUm88bk",
  "AnE/FvscR3m/SCPxUe7kgq02jPZXmnbMnZWmoVvcqhiQs5uExnc51FkI2OEw9aXC/wAb",
  "ANkiCCIJQyxNS98fYc89Z+jVnGMbnRSgq9NZwtp8yBYY554l",
  "BXKlCspyFiItGeWYKPgSLpl7NI0AWjwwWxbAYzaXZUc9ZZsqadkVb/BZdpEmgXcTjyHasDnYvea9v+izxDyR03r72Fw033tM9lmR",
  "A1K5Dht4KhgdL9q4MjtYNAnNRNWSTLdVWbjUXX6OddJRn+GYrEEg",
  "CY2dERJ3LPQoU1pcWAgCYtqdeZilfOWIf+ugkWhyl1tpmrO9to/ouffAx0kOyp6p+G++/+WL",
  "AKrYI0A9KGK3MO2oMwcrM7/2X9Rjmj7qm52ew2+HxPgaxjdGxsQq0Pjm+lru",
  "CX3HCxqdDzYLEnDMLRxJRbiKUnA+VmUrepB7f1fUiFPdjAJfnSF0pj7IsPcT2UGk27bU7g7L9qHP",
  "AEAxIT1jQ/w+ShkIURIOW85MbDUPeAAjn4WfpA0AtrBYt89xwlsRxssA24oM4cKo4htm4x9R56cg6cjy8bpf+qC8/xiB",
  "CQ4eHEMENh1ARU54UDl6fahkfgmRir6rml9dq3ddssVnzu8a04PW5SmW6Ek+92s8",
  "AcO8GuayKcYJNKVmPK8bWgd8Xdt5r2YS1r022HSa3AZy6PI//KPw/2QB",
  "BzPTCHCvDnm0TnK/UEUEi16Ymo1yozIYpTL4xf322OER2kN67t4O932k+3gE",
  "E5DqMEmyMul4OXRZV5fsWcKoXNPzgYmvhIW4iGM/jmfYjt8akYDYmU/NoLP/oUVMsH7RsVEG1jst1nNf78W7/mAy",
  "E7cMHAILJAIvM9hcPNapRcM0TF47T/j0WBPRXOU8Ysm0Z5/FaTnAfYHtmV83oLB3oweFu7kc0vbQ8a6u+nNU",
  "DUYvDoEhEK9VINwTKjMWMqTgS5PbVn2RWYTOWrz5ZIoBbPBxcST2hCFglaLWl+ELnsDdoek3u3HX4lsg6abI7icx72PT+CkJ+dF6+nDf",
  "DnNqFTXAGA9SGDAvJw1GSQsSSjFuWvurYPHrg+0ejeR/lZgUn54FqclI0a0l1OA84dsO6Puz8+1q/zDn/+0l",
  "CSaEFLKNNVEgPqmAQwRra65ydQ9Xdoh2eM1YfLTjfP41fc6Lhm3ijSA5k07vmnfDuR9cxiYzyEbkyrXDz4G6",
  "DfmzMe6YOYCiPFrLPe2sRLISR0wHURTOV1r8YC5fcvIAeMOkllbRnNIswwYnxBlvxG1dy75k4FRW8MXB",
  "FGi2LZMdLmk0QFLGWG0dX9rxZ4X4hgwiknHQwd8/yEDu3qrU5UW080YN8/IF",
  "F9w7SYH1Vu8waz0mbVBHhIpAkWQIx3na+SJU/4EE",
  "DgfsEuL/GdwaGhXUM/DCNqmHTxfccD8af0Ioj7+Dk1dQw6BTyE7l3Eo98ekP8oXK9K3v+FUE+YJP+a6s",
  "OBStSh/aXxuBayszcqEDdwpIfokog1ynoM62uBAzzMHB9eRF",
  "BJeCBnZFMwOUSknUWDFHWdHhkJb+lwc1qU/ou6D/w/54xL9cxc5e",
  "ANKFEQyeEgk1JrzLJ2A+MEzAM8JIReLnUUxoWtVCZTm0boELdXtfg1fLjtIoq7AdttS9xGit7pXO8+Dl+OGi",
  "CzLWGrjOKU2BNeE5OOavPgYSWPKMpLoCvTEVxnaU2jzb+R8o",
  "E9OnF4M1JevpQGssQ27ZZ2dxa7KcgMoxiEZjmKeImkZSqH7YzWrK3sM6++wr",
  "AaWoCbGzDN9YKPdtLEVBMOWlPIKNRIcbT/KdZUaYZ+M8gsxcpUg/qJc0quMTtgezu7Jo0XfY5x6v",
  "J1reXt7tZCJ+ZwUmdCpvdzLZn+DzvHxU/kxk",
  "BJhFD09CJ5NMLh46NBAqQbivSNz3UpLKg1gFkU0py/g60PQI0d0c01pP5QDX9bwZ+Qgg/9e0",
  "BA9KBo6rGLVTKkgkLQ+uMHGJPpYiQqkuRBToSQa0X9O+ZdVNexxSgVvBiNrIlU5yojhMv8op+X07",
  "HaNEOKvfRcjuVS2QZVIadCFZjZnDmJpCmLMDmR5cnSDPrkb1zxv94NSs8I8u8/Ke+PoI",
  "ABy9DMRmPzNXQub+Ux4gVV9KVeWwaeF6cMExgyDekJkZoLQTvhAZxm8i2lVB56Z79O8P+CtT",
  "E+sNIESFJr2ZN53dSxMLXnOuZQhDeylffF1Mq3a4vTdowikQymfs0LSW3tug7z1R9z4P+LAx/ovX",
  "CZC5JDZ0KV+/MnrAMwGeQeOpU9IrWN90WlPxXEXcgqS8qButrKWpsiq9x7Szx8gmycI41GAh1nx71qSR9jrl9wDV",
  "BzMuDjqODz6BEGfAE9nCWieDY556ZaVFZvqHbUYFdeoSnGqPn/lZpTJTv/6/w9Efzs+M0ugm",
  "ADr0IsZvOK2LQm++Qq5PagPYelxVes0AiG8+kYAzmst+m2Avw6zLxQeSyaca3lD478rN",
  "BqcRFebiGU8PKsUGT/hPVQCUYskPY6UKZe2zZ58giooljI7SkZ42k2iflUxzoK/SoZgqtOmXth2Vw4dIxf8q6Zli+ZWh+nKv/5D/",
  "AoOoFHflFPu/Gh9QIt9XT51+VnzsWrxUfF8ojbIpl+BmmZ+/nTk1pT9JxhdbxnNt2Vll9AsE+nA6",
  "EL8qIOAeNSqENuukQeFFYhMfdHhqgmMAmLJbplFRpzGest3at58ewlW0zAqc0DJA3nUA577h8qet/zBC",
  "CSXfFDWXGt7kMK+WOlkkT8kTWyT2ZSCpfHWyfXxEfc3mhLgpiqIHkTxuk9h8pButqUcgw6MDxI6M00V51VRl1yg96MxY7wSt+MiX",
  "CvDkIcetKm0IVW64ehYLiUO5sKbYvSMJ0VAl0ZG41WcC15S12Ixb8MUc/Kj4",
  "BxtOB1LRIbl4PRWjUmsUUyXMYsBiZXLrZxLta61+bTo1cW1jgenHjHl/kwTsrrj5waP9yCRN0H/d6Dcr8hrO",
  "DIEbFfO5I7nHRgWWSpHRTa9DYulCbMR5foy9g41Du2tIzC/H0pWO9wkk",
  "Br93M/AdNCSYYuF1Y1tcfj7mfqNFlFe2nj8vnyBrtJms+osV",
  "B2GVCmB9Gq9+MkXANqBsPrvHSEZ6TaLbUZ4KVpVSfY4qiIQEmVWQnTC1nVGbnleapveuqFwQxrIP42XK9CoX",
  "HdvUK8jpLyUUOGrMScTHSkkvVF1SWDCiWsEchTW7hdxYh4YHnvBspIIpsTqIs7OfxJtdyPYTysX+2ng63AdS4ER359dH6enh+LSi/0io",
  "CsuXDkgsE6zvVyIEWtSdYOozY+9Xd0W/d/V5fH2xg/oJhYxUr4s/xkz72Sf0709w/eso",
  "BU1cEHzFIKPcJTDKQLnFQXx9QquxWnmFcTsZekpAn4yGrt6HvC122KTB2lPa6Yng/DOj/zGq/9mm",
  "AZkuBZllIDhUL+jPMzF+QGqHTrQwUWOfVbjDZ3N0jwwckQ1Alq+ImkWtmr2ZpAQhq53itrZjt6QhxpQfyBPkyBTO1Crz4oul50+S9Ee8",
  "FvoIV5MNXACoX2YBYs/hZmY9jAbWjNDVjZ9fmcJ6oPbepeBVrS5XtH36zZGn2Frq4Ka08B15",
  "D6+7EaKEGRJ6JGHzNAiDXt5IYvnbfyEsi5GHnleVpBsdvkB9yYUt0fk0+OKm",
  "AIyqAxamB9pSCkGnEFDAGKkXLh2VNNexSdSVSr5eUpIlVq24bOY/b/IQsn+vue22x0fE2L6T3aK88xzI8+eL9bR5",
  "AICvGVF2JlJhR4wgSmGVVrYZX9MZsIT7sbVEsrHOwq6q098K84Wg",
  "A1+uBFVqCRuzGnUiIydwNbMNSgdJUXv/bFr6mKdasQep2UBa+TNt/fqm",
  "HQ+OJBthMG9rNfj6Ptc5RRoLaIxJdqV5qJu4ytYjyzDd7pNw9C85",
  "A3jECHtuDBWzFzakIEPgJE0TLi+XMZNiNGrAP+t5QILtSr8jU3aXWCztXXBWX5opYaFudyMRj3Umml4TzCv9z/mZ0u/u3oh73tr7",
  "AEogEHMYOP27ThoqXdiGchF/duhXgMSmgqQXmdrgnj65rKUEyk22z9JU2HNQ5KhB+PpA/BIx/3Za",
  "BFlKBzKJDnhqNSvwRNTfXuvaXvauaukVbCl9im3QnajFqEnaqwGwrWQmsYPy1Ld34+m8",
  "AR6kC0ipDjwWDp5WGtdfKedUKw0WLE4zMEhoM522Qm8ZR7HAUqqLVsYeWqk9W+iubNJwe6rMh7MViG6ZoK9RqP6lsZg60e5y0y2O/g1T",
  "Snn7WGPLZe0OZ557dobHduTsgjGhj2t+oK8txNeX2h5n8cZB+ZT8+3Az/RAA/ZoK",
  "DlXJEUGANZe6NiAdSnwqUAOHXl4pZWnbbGBXcLv4eYAufLTAf/a4l06sl9/BoDOFpZeQqAMH0iAC1edv2PSf9Apf+MyD+RHJ+m+V+ylr/Qpe",
  "Dvz6Eil4Gg2BNSnfUQiYY4OHa248kzAImdu/nMArpYhv1Dpg1pUh2p1x4nI/4nUo",
  "Ce1lCur8FLFDJjDBObMYZSAEdFnidoczfHUNfM7hhjeBmnZ5nbpNt7gruRT/vwPu1VPA2I1/3CLC5F/+6kEs+Mfy",
  "EBLfEHR2KWAeNImVQ9DaVim2a5NNd9F3jjVFmfZVxGwT8MR3",
  "BEFYCH7KCmdaEGcPOMhfP9dYXw8UZxJIZ4SudzG5d1zQetyqoZcnw4gHyoOY",
  "C4+hE3+mUsLxY0nNdq6GjEJPookDqs+Lq1Eaueeduei/vWdx5eFe",
  "Br7SIuRNLLd+NHdhVOf3esMmsVKtw58Jy8z5zAOL2ly8+a1i+mmg/h3/",
  "AFcnIy82Uu4mYQRQiqaIlMsZmcpanVD2rIiDvzvW4JV38Vt09CLF",
  "GgNdMEytTPoCatRnd2iaghu0xJq4y9BwzUyM59ai81KM/CuY/1Pe",
  "BmRcDCxDFLwbM0doOEu3SMHzWWT/WtP4W8LSZJnOZThqaH1uaz+qfI1zh2fFiYGcoHNXos0jzyfS0QAL4N6l4W736f9Y7hTE99Mo+OBY",
  "DzgVLYwBMEeBPQLfUdG3XnpBgruzhXSAm749oDfLtMbBvk3QxnVK",
  "CmYxEfyIEjYAFfcDHmbtLA1ALIhfNwJjRmf6ZXXWZjASZyqud/Vfeah3lEWsz1h32NQr4AbI56D47keH",
  "ESywGGrRT/FTZLMvZ7BkezgzgTAahWZDh2YijNAwn6ZNsCfwtiBmy4+/5A5a+88U",
  "Btc4CvAwDM74D+uFFh+HGVgiIaByIatwRIk7URrTYvk2Y54ubugDd4UCnlbwq766sdWvsx35wF4/zFeR6IP+",
  "DjNmGJ0sJYYeSIGuXJGLaZN1bJEjg4Snh9ELjbqAmQI7nWlcsKZStyNzue0Rzott5qRT9Dsr",
  "A9WkCDnzHQW5KKWiKcJyNSIjPOE6UEVoX9J0Z+U2aDFPg5O+ivhLnlV7qAaqqZ9F14nj5sUH5+8I78sM",
  "EyJIE8SwKiY2XvTrZCkoZVDQePkMfKXZi/Q/y2o2zTEB2C4a2T+1+Pi+/w+V",
  "CJuGGbbJJIj8JfRIVYIrX4h+avO4a8QZbtcue3/ogYqIm7ljnCQloITCtGmDyOiV2LyC3qyy6d5h9EHr/JxV",
  "ALoiA1oEEROYFzX/LFmUMZK9NID1Z0MUbKFFbUCncp5Pet61gTt0nn+Et537vyNo4B8u5Jak+ty//Jak",
  "Djj4PUB1Q7u0ZMuVdTb5dW5+p0LPwJ6ZwM6l2HKr3gax5xzS",
  "CACQFuQ/YEnWYdhKYxGcgVDoiZn7j3/LmeVfmkv/nm9WtEHB2xfH56g25663+Clz/8Km",
  "AOPlFOrCFgdtIOj4TjndTtl8UX8RVsV5cLgOiG30lS8QnYHCrbi7sDmwtemXugV35GU77QDN9FOR9Y5h/gwk",
  "Ce+WENOUFWFZMz5mSnlWTZnjTsxeUF3OVq8xXmWSZxAmoK6IrHJbr7Qiw2/k1ccI6Adu81Y7911e",
  "CGvvE90WGWcdHrOTNuN5YuloYz7scdr2fzdPl98cqAJiutuTw0nd2Vgb3Jwj657L+m7w/vWc/wIH",
  "F3e+NSk6aihQbu+UhVK0kVz9lFVFm1Qen9YdpS5x2K7O5/ye7DFz8qZj",
  "D4LPF05lMasjMlX1NIKBQsrSRnu6SKJLZRsciV5AmnXUuNKGxaZ31VMb4LOb",
  "Bk0FTUFET33BYM4/jQD8nImQrHUnrV5+rvQbw8FVy8CLzW/n2IsR",
  "CM5oCvrQKnaSQHX+SJ9CSPm1Xw5vYOqwYyoCaNdlk1KCk4g7sWcHtDrawHKv0EFA2tzU7ZWo76vu/9sM",
  "DFYuGV8uHipvK7MRM7V3Ra6wcLRaxlPQ07Cl3QCm5hkV7pd2+JXc",
  "DKKlDMvCKBnrLjEeMB8iNHa8QD7TQuQKUnk3XhkyZmszbLesk/A9lQ+gm+42oh2stATKw7BMz1cH/mIw",
  "AFaCGxzeIWAdPUEJRbd3XBK0dT4ljzc6kvC/mdFVnS9rpC13rLbpyQs24JTS8Xzw/w4C",
  "A9cGMV6uNuM4Qv2zVEVfXIDheptnra9or39CxJoTz/J1+wco",
  "F2bLIeqMKLdnMcOJMdJgNHL4NJrnPWVAQPNMUSeQYblMZco0dMG5wuNC0N7n4W5S5vrG+gl+/bNv",
  "IJMTPQI6QPnXTVmqaAEJmQRLnR39sXxB2KN3",
  "IBoQLh6pNZnqXb9rXybVY40PZi9taO/LaY5iiJWbk3MtsJN6upFHur6bva4Tzv8O",
  "ESwLMGJ1M83da1vjifVimcEwqli2q7nE0Ldb1MTi3IyM64WS7qSb8GvQ",
  "DLsLEnzAGVd9HfcTH2K/IaGCNBfeP9BtY514fHB9fuCLg4Ru/rha/6mb",
  "AG7oI2oEJNxKLhxLM0VWXJDmZXyRcOwfo00vq21fupxuxat51BTw3Om04K046zQS+h7+",
  "EO6sIw8oU7jqanwofxvkhMkGniSHrlrmt1heuIUd0/pX5WWk7dLb78pn9W+9",
  "AujhF38xLBHsMX6uM0rUXK1TZVArel0ge76BfKU0gQW5gomsjIs6n0mvpcQSpcZ1y9Cj1DV+1HZa4Ya4+PgZ/tyR/zfI/463",
  "CnE5EMlSGinCH8FDIbcEJ/6QLHBrM8HBQWd7T66NWXIYZ5lafWwemF5osZ9YzsIG1wR53qBV6Hin6mcI",
  "B/zTDS16IEKWLpqCNGl2POweVngJXz87Z0JvacraazbRnBjC4B6J8TFs8Zks",
  "KjCSL5EPMU0zTd7FX0ZUaB2patkidwOQmdmWmugVoxEw6Wj79SBl9UnD/NJv/nEr",
  "Krb4PZJ6SZwsXCXUXmNFaPVvfTEaj38mpU0QuAka2jB67UPy859t",
  "AIdOAp4hBs2GEdByHgbCMV3vM5xsND3/XKlMZyZQd6nVgsOtiG1PnYEdo2WVpVv3wn+Kwv7a4MWe5eEI8ija9FLs/U/B",
  "Kbn4OJpOUF0pUjCJYYZFast2bgeTb2YYci0/e4FIkpD7oBYEvFliw5dB1mVy6AbJ7etB7jBl",
  "DoaVFHnKVoPGZWiRZuKTbF8NfL2ait2slz/Vnnkjn2IVoAj3oDI7pt1ZqAG90sVE10/84Z8e74eO+RB/+cy9/Uar",
  "EYqeF9ofGbTIHh0TLCKzNSiVOmvQQNwJRZcFeVgnfRt5lsJ9mYgSxcLDyAr03ri77aR17yYh+Lbf",
  "CBU5ILCXILY/IPSHLkVbM3BAUTe+WzVLXEyiXef3XyH7X6fDcrYQeXIqiBYnmLTQtpqbxD0lxj+Hy8pb1VJ24Dbv7z238hW2",
  "E3KME+ZdHrNuIYmnKj9bK3g8OZBiYA6/a5IDc+48g2O/jjP7k51Rn9Z0ry6OsmW0tTB7v91/xhyxx8Edy9i9+y7C",
  "KnXtOJPiPFVBR+fwYG71Yyldb184cFNDeqobh0NnlHoBt7Fn4K2h7PN++rIt",
  "AD7fDY31Dn4lHinKKiYLLTelRP7XXMGyZcrOhDLTjtBkqy2t7dA2+cvc",
  "ETgcMCtfM1v3NHYXUHWPUniSeFSilcigtAQltuKkuqQ5xsPO0b6k4B/u",
  "BhmFDp77GQa5HVE1TWY9X33FdaxahFWFu2WPxZJu31RU5/dH",
  "BDKmBEfzMXa/NoIsUuQhVoMVZP3EZZkdcYKYfqNZg2XJkS2IrDVFvcDyv0o+wEBjxFecxJluxNRx+Ppz",
  "Ktx0McLkPvRCQVdfUi58bIMlmWCMoHINuV58wg2sxWlizHTH4E9V",
  "A1/7PQGVTVkFUtpQZZQCZvfIdwAulB2Kn+7ao+wiwgOU2KLS3odK",
  "An28E2wNGy+oH01kJYeNKQVJUZtaZQqodP6NkBIJrinDrktfxVdV1mg7",
  "AJz5DCoCEGzAFPx3RyCMW4ANa7Ybd6eJd+/khA2tns5Bnt+Bn6UDtcAOvCO/y4510iTY3lsk",
  "AxoaDLpmGVbYKYTHR9bqUI31bua5b2qQdTDodYvvkAzunj6BwHl0zGJc0y5q3vJF5qO/8Wl5+iCs/6j2",
  "FIzyI6kRR1dNVMcOVNxzYwBNbd5nbhj2nVhapDQnpvWJxZVn0iBt3jrn4nJV41pZ+h5Z/J0//mOr/yXD",
  "CZzBLwZZVL18kpt6k3tMoWAftPMEx5lI78nC/aVf",
  "F36MO6xETv4PVTnlYB21gokHoIpzpNAhpPrlqhJDrVVgsMesvC58vFITxHba1DTZ8m9f/tvs",
  "QjwNSEN/VVJmXUbcsJlhu6ADxisnx/HpyQoG2Ls4",
  "BtdWCoWqE/aBMSu8NGjROoP/WhgBWjd1Xz6WZSMOmbqynof8osUnphoZric4vXDQxBhizGv65pkR8TNq+uL5",
  "ExmnM+WePYxRR7mKath9c6RflSx6mdjxn71po8PzrCbxu9IAvPkY3RJw9KLL+snX",
  "DNLMEO5IEhpCQu/lVpyLXLfFd5vQepEQlH/dl8AX/8Fc",
  "AIapL+mnM5vHVWM+o2Tw7chf8ltl+ja//z4p",
  "FMB3OmcLRIKEUi/kedv5fzOlo56VvJ1Ry0/Q2R115R5k7eqc8A5N",
  "BmPGC8BoF5byQOzVUO3fVSvvXDfGgqFtn2Fwtoc1xpdEyX701E0/4Z559GC3/vRS",
  "CDrfF9l6I67WJ0EXOUW/OWtCSd2WTkOrjWF2mjCDmjsuud6vzl+t1xw65wvO6IOB9IMM",
  "Bp1TMXRcNIE3WeNNWjBnX+nEe2WLjcxxj5E9mkRKtpn2uBWn0Vw51pkH1vwj2FBr4N2/",
  "Gx9aM/4EOJXjRF9uT3x3ZjpYbuC6dcaIsmUPvZ5w/pEP",
  "COT2CSBWCx5dDOsyElEDGByUIqoeMQVAS5NqUUpVYpWTYs7UZwY9dVUWduWRj+u4kVyplVgtmqf00LZU/9nC",
  "AJ8PEXC3HQ/RJyoAKBqgM7QtOWl3RyluTDoMTiFlXMENZ+XKaNT5fV2+mrX/o31Wqpmfs7tgv2jux32H0/W+3X2O7hy/+R1L+k8l/0Jy",
  "DSIADmJwE6qVNHVyRjGIUnftXjAVg/0xh6ontQ/nw68C4C+j7gMC",
  "BfeSC6FSGZ4vJFJESg0/YGxQiwClmbE9n3nWq/hkvElP0Anu1LwN31Ov4bbf71T8/wy4",
  "B/HGCjAJF3OJPEJUTIXlZAdQglb7mlOUrFR7rj5GrxM5yCK13aRz3tB8",
  "K0VVNJmdR3UiUwfubYagcD91h8JhiA8/papiwuH4xEku4E6w+qyh",
  "DcGcGO7mIvz5J/rDPQDwa7d3hCQUk61Kn63loHZdx9je0+8D3oal8mv3",
  "BbDUBm54FrwrYuc6Zuu3b/yNe4eCkT/ZlJWKlWYkx1WrzKJ00Yvx9/5u",
  "ALd1BYZ7GOUUHsmMKnhLM8yTOapwTmlfTvOtXNlzZeKPfx35jsglm6o7oCZ2pM+KpN1Yv501w3wk1MOY3ITh3ki/6vmZ+Yp9+2HQ",
  "E0X6GVYzKwE5K4Q7UI1QYuU6ZXNqcyZkge1gn8H3uxQtwzxBxv592tvo3YEO7hto",
  "FIxNJecPLXx2OwU0SiWlVje4WIgfczaBdYH5d0W1n5I8s2IhtaITto8wxZTCxaovyqXpzunx32wV4c9F5poM7dYP80CV+ugd/mMG//bN",
  "EOhvOprvSr88XzPNZRWFZhZeflDvfz8CkPi4lYp1q4vu3uji58eK6+nN9K2++L1z",
  "BOpkD5ICFdBzHWJfIacLMvfDNb0KPcFKjB9HoInOpcLIwZUpwi4F0KXG7yZu/fqS/5Mb",
  "DdmpDtJaE694FGsNJUaYP1mgQjtoSDRwcf6ddpu6kLxjkQsToAabyruN3p8L5urV51ja",
  "Jm8FRYreZSJpd5lhe69ygqgtjeDvmDsgqayHrmU9x24R4KZi7lsl9K7W/Kum",
  "XPHZXmgEYEO6atfYbUSYc4D7lUgdn7zE9KIm9v8b+aLj",
  "Hli/Iy+9Kwa3L2v1R0CaTRbUUKW2US16V7OUXfrPl79yuARqvrj0xktR4xew/ADP",
  "A1y1BYCoHv87IicZK+XHMVylc4RufTFPqdBbrQcZrhz/t54puG3wxNM75TaM8ApI",
  "FuzbHDY2T3MMZS3rb2TOcOiJjOYitxr2uaJRwrQv7ayo9TtA9Z0U+NXZ",
  "EFOJLUxeXDchY8KDbKhHdgIQfHFThOqRhcpEk6aKlMk1n3+3oKI0smNrvuVewXNhxHn6yqgq2Nfh5tDI6Biy74ZE8R6G+ctz",
  "ICBWIJsCJqSzK8muLC9BP0UsTGfzY1qtjGfVkLTpmy+nt2uVzYEW0JBn3rdx32zt5wsp",
  "CBPvKspJLHQcVsoeWi/CXK7VZTrPkM/9tplRu3iKxDAjycCKz4SV+AXJ+R0z/cZk",
  "B1pDKGsHNdRmS8yudcXjeXVPesczhVUIn9UqpxH2smRqst4suaVkvQDxw6zw6ILn",
  "BUPzEJqIEuZVG4WqHEhdMiwIQoogU8q8ZGPDeqjRfnizgvwciJeQjefhmqdPrWKsr8Hxsqu0/9kd",
  "BoLiEnkjKhX7Wp/gXSEkZcmEa7Kzb+cQfBzCfLgKnTqlnYA+y0Ur0nQW1YtC4ce8+k6A",
  "CRXEPXnMUndIWXaYYq1BYxsHZIf/eJWQflU4hV0hnRUGqJ7SruqYvHFlv0b90jqT2TU26pkA70kS9i6F+jnT",
  "AF7JHrIjJ8BfKsEJNGdbNocIRITbYCxuZ6jkeNZXgSDwgrkumlXvvEiqyxYI0/Nc2kl455qy6dlk7Ygi8W1d/wwT",
  "CeFzEOXpO4CNQKShSwhiTlXhWSzBZPx6eSIWe4C5fFGDgjegkDPdqiUUtfYzwFaL",
  "AszGBpl8CQe5KwEKNJj4WkgobFdAixVypEWWqRahrr4vwjC/2Ggs",
  "CtEwDcD3GfQWGwnoIX5BN5NgTatYUkbldd5JjKEfn+2QwgJK8xTM+ERa+Pbm/38W",
  "Ay0LG/W1H0waM2HtREykTxAwVqNIWdjVYm25bNjagwqwh41+kXRqmr+11mbx3js44O1S8pUH",
  "AJYAALbQBYXWBptIG0MeM8vuYZJLYr1GYwG2ZJgynch9r7WfunuOu5OGvu/jzySx7Ma9725e9ODR+mbm",
  "N3h3UXnbVbquVnEjVrkBWnwwaGK7ceP0g3QIkx3+lTqRmkPhnS1st0vCwZSb2Uzz2U2c5a8v6jK765dr7hrD93y/",
  "ArGVD/R6ORcRSiUAWId6bmJEh2HYn5GXqzgguYQV0b0U1pIy4CBI57MY6F8L/mJh/yR5",
  "A8DuCRoWJPKDRyvMY8soatiMbAtccVcRcrp5iCaXmmtVuU/6u0qixJHx2jMj2q7M",
  "EFiWJLA3JfniOlt1P/g/cP6zcRbqtqdwvAlHznzz2ICS8zWa/0Fu",
  "AXT/E2I0N3mTS9ChWuxibY8amplqx/CfySpYztwp3K0439B/",
  "L/RaQKwoR7Rcd3/GpVBzq794ygAX7AP2/3hS/35t",
  "CpqgIAgnK4AUM+RUStfQTUrZYnX8YtWsatczcZKbeBH0lu3YptSTxKgd06363Gb65vrf7Ef57GPP9KGB+Vto+n9M",
  "AKf1DyAJEArVGEStGLvwIbTwOUyLPsauQzQ6Q+lYSbBmVomJVq46YB4VZFM3bI1El77Npt3wsPHuydf+7jMp",
  "BkkHCUltSj1mgsoulYWgsAu3xoW+9PIq+rrk/zzf",
  "CTJ8DjQ9DjxjGsrPHFgiO0RlRoq4eezRjJgcljs1lzGppguhq4svrrI1wI+F2Rwr6u/N7awD+F8T/OKo",
  "EmjtH/eEIQHhIrOhXDZ8XSd2YPs1amvlpg3E6h5v8cTE9REA",
  "Bui0C/GEIB+xP8dKQF6+fRYFjVgsmjnkqaeAzAfO1Nnn3rbM5cAW5wqE",
  "BuGRCBNKEE7pEUItEgVpFCNUFJ5EF7LSOndbW/TfY6I3lNUssYBx2E8h",
  "EljsM/y6Uy4lViVze/0EhpeFnyt+sWgR4L1c46767SPh9YXZ+bqk+5aB",
  "CycbDWqNGwJNJvZvNOzhQ804UoZcVqHvZN/HZbXba2OCi/N6jec8k2K/md88nGgAnt0jsH21tL/UuBwruI++w353yWLYzh/E9YvN94s1",
  "GUWtSlXMX1irZcjfiA86lv6tyLGa",
  "ER1RFM1XF21zOw7DRHm1TOcqZUWsZf0vbDwobuxfdTO1i/+9oOAWp2+ZsL68xfmt9X10+O2a+U47",
  "AESJDXN8ICKjKJlJQh6pQ3pQYCvJcgB0eilQncj/pv66s1jpvEgF3LNd5HkT+Z3D",
  "EQfcE5MAKpGxQHckY4/kZPvVfFDehQqZkRNnmlJKuGCJ3s8y6JXj9uPF",
  "DMRoIDLkKY6UKtY7MikvXEh+ZVKQZnaweyrto8kIrJk7s51mxEfk375x4B8N",
  "A6xfDcBSDeXVLdq7M0BJOAKEculWjSSon+zrpaGQrzRFuV1IwZV1ywEu0cEa+PZB",
  "BEaEIcXLJQkGKVNRLIvTMDyfNmEgOZrtPBZ1Up7Ca31Ce11IkBTxn/yyt9MLupSax5qf3qkj5Y1C6Sxw8pRi+Z9M",
  "BYUxBpqjGOPKIR2HK+d+YBXvZUKpZeFFavoPfntBf4o3g3ESiAIQonfvpD77rbpnw3ra8Wng+Ykz+dPX",
  "GAQXJNZvY7zeZV4SewTwglCVjaW7kx1ZnSzHwMKEyb7z3efO8kEq8/6W9oE4+QYA+5Cu",
  "AHaKATOIFyhZGDrcINOwL6yYMu5aNZQWORwsQFbVQRCoQ6lhROXigqpjl/wntXVZ3M164rpO57Jz7EL/963c/mG8",
  "IFB9VfrpZRQ7aFk/bd0mcquRed8JfGlEhyDapOVYxWQHzFeH3ueY31d9+Lwp+xD8",
  "DXfTELIKMw2WPUMOTK0CayF4c8nIfkgOggCToIGsv0cMwRlK00r24hNv+FCe",
  "GMWdGUYHG94cII/UNpbuPyxWSCeiSfEwXCSoZwZ/cf1TehBFeveOe7Oon3KboAVRoUE0sd1+xaC/zkK10u381A9q8Y6l",
  "AbWJCkXcDS38EvXkK0heL5MmQ2QxTyjGUrcogpygo+/dpU/Ow6945M0T6agP",
  "BrMJDnJzO2FdXxdnYtUHd2DTmofsrFZOudTSwS5w+aGZ",
  "Fi+mNmL/QcI2Q8iSR5kkbGz0bYfPfQoNgFc3gW46jw7sl74onUUtrgBhwJvkwUVe2OB55+wH6c6Q9Bb8",
  "E4APHOGKHXf5JaFiYejMdQgZimm7mJS3syLRw1tRxNCj3qvK58gJ58rZ787R9PE9/hQ6/zw6",
  "CGCYCTHXLBI7PBfRUCmaZSyhanorbCMdcm83dpPJfIGqu7Nw2MJE2RuG4W4S4ebN7ate+NSP",
  "Gx4hOECrPH8yPlUePutGa5/qby54hF+4h9mkioqosxmIuBrMwPbZ2JhT53ly8UaX",
  "KblKP+4CZx7lbRCsctZqc3kTe8Caf/DOidjIpVaxqM3iqrWxqy5CrhWFt3nMwu4Q3/r/5wnf7F4B/w36",
  "EgTEEzacHcwfJ9AQS8OkV3a1a5/Vb0ybdhHPm+vSuDRHzO3ezQ9w2E586S5P",
  "BstvB1j5DReqDxkIGfGgHvkORP+UYTaRYu1tcfFUjIoHme4enKH3nksno+RhpfexqfDZrqNRx2Vr2iIe6Kgs",
  "CyZ2D9hyFOpcF1nfHGFGMLVZOcQORo3rUmSuVqFKYyAEZl2sa2Ldc0oQhQNDl5NBnV2TtNtGtqzCueFIwPvVzPfw2Lia2vVS9C9i+sR/",
  "GUUIN2qkPY4ISlUnUDmfUps/iTqww/Vj2XmM5+M/",
  "E7jnWHdRXfoZeyS2fjg5gr8PguA7l++tm9tfp94zujSX2TPs3n1/35Cy/U1K",
  "CO5PYCskY478bstld9OQj7selDEWrSvPtzk6urP1vEdgvLinxJjUzSuL0z3z2LC52fxj43QC",
  "IS3/OGqfQHZ/RleLTRr5XHIpXhugdGPSdkXReSDMefNifGFhj8eTmlGlm4pa6T4V",
  "AhBCCkt+HesHJsSANZJhTt0aT1mSVFarWgsLZhdzelDffTK1hX/dmc5yrlGjx52Ty5xczUC82Gbi2QEn4LKs",
  "Db+tDn/iG2xLHJeyJOLUM7lrRmBSXupAYwXTfCdgnmONrzOgtBar206p+PWc/7bd",
  "BFBFFUD6G0WMMDv6VlTKVrmwXSm8fyiMhB0jjeO8nMizr0BAufmuysdB415481qX+HGt",
  "BXLUCIaDC7sqJonlSYrISfR6Sm2NUvX/ZHUAZT0ggzKOtnkG1HCp2Drj2EFF6dL38q54",
  "E9FNHgWILEMHNVGoQKGKTlgBVI1rXehZaYktc598kxy0wQt0yht02UxS4199/unT",
  "A02mBAWXCxbEELSyGt5sKaIrOX54VRxYXOF2bzvYcSqBc8fPp/7VtdKMt0MJ0rtz1LbV1S657lZ77wMX72wJ",
  "EFpTF0KcKcDlMZ9aNHa4QKpNSGKMcqrsiJ+ZmmoLunFV06ZT2TWW3ubz36kU4Drc46ue5dHt6gsb+xBX",
  "AyPgIG7kLKmaOnXSTTV7lGG9r3KuxxUt1AgU2H9I4Eqm",
  "Eee9HZ4aPcvhTjdiW+R6XwKmZCqyZZ+Njp9Hq6IdrL4vztrf0u1X1kfg4X346Ern/Q0C",
  "GiqoGvR8L+pFM6muUraDVVcoVtIWaytgfBTHfosqhqYRiVIAj4bolZQylw7spU8ptkHyw+6A7Lrh",
  "E70vFJpmMI62M/OvelUgkOeGlnaHmzp109mg1R81+aD0+hjO/DM+",
  "AEq5BM7GB9aDDcDvXGVSbWpCol0Kp67ls2HtvhzrwuNAyda0zEmD3Hue30kw4IkJ5QeO+9tO/qVh/rmA",
  "CTZhEMp9HNZQKGzKL/EdOBZtVeBSet3BjaJ5j+9mmJQSmjnZnRgjn+K6q3mK6Bvk/wOd",
  "F1sCG77UILBJMfYOTSmCTko+UA2RVptzZSv8bnIrfIEFkOuYqfANy7W9zQD22lzl8je/+NPq+3sC",
  "HUzOQ9zSZMaKfaLQhX+Bp9ecwYwuzp3X0yO33nwm6rTy8AaS8iK394Dh",
  "BQY5IB5nJbBcKbilORLJV9C3XxsMZx5AaOQCduTaiK7XjvR0kYU3qGjktcen3/pa4hvO6Z7N7Y+I",
  "F7GIHGfSHiEDLCT/Us7pWiO3gJNti9uki/zjsGO9025B1lCF",
  "AaVSBVo8BsrKDrbxGcJXMqtaM6nDPhR7Qgj/Sw9YT8DpVG46ZPyxZQkLeTFjkEdQoA4Ws/4i5ksX+bla/bOP",
  "AGMfCyXROtGxRMJCSLVWaNmha2I4hvv0mE8bnVzunmoko0FmptB4tWsTuvnywO2HxjbvzMxDztv/32GW4KFv9C69+N/1",
  "L5qOPpqtUDj6WygrYEXMdhJXgp9MucNMw3MS2nwu5+Ka7ccS8lpt",
  "A/BwRf/rWYM+ZURiZUlYbDrefJlrmP7Dnz3moH9PpbhJrXJDyGn40uyv1YnR4Xrv7zbf+OxQ",
  "AEM/A95CBoSNB+OuCXZfE2myFwMdLY7cYCp/Y3d3bOIVcKvldIDEgncXlM9Rl6CcsO6MvlnI0HRQ3pSM5cly",
  "ADxxBf40B/EKCkgiN6kVN7HXORYAZzamcJ7uh15spW5ywMq9wqDgxoUgx2p9zkFzzqqq0TI+4BLA74bp+Sio",
  "DZQ2FggJKDRQUzEOXE6Jihd6kgoqmEFzmluon7JFufIrzSUi5Ma7/R3H",
  "AN3oBmzYBsJgBuMwFYXfJyY7RsQdYwUuaOmmnmLooylJrzL7wTxIxJWGxNGKxjtJygwh19/L4Ily54Iz76Jt",
  "G85gKknNQ6x/XJ2DcbURfQRkhA6khBx+kIe/nXVUufkJ4LnV6BDX8taV9Ecj9E3Q+lRf+2ei",
  "BmlGEotmHnVfI4iII5CiO3KwRg/7UFFgWeIGZ/EufMvumtamrjUbugdXv1eOxq+X5/sA6CUj8TyK88qd",
  "AZDqBAjWIRZvJHC7SNg3WWq3ZVzIafxVdlWTfLHRoJe1qiDZw+UEyBm42Uut9NBD+QS2",
  "FuOOIAiSTGJbXQlXfn8qjD/zn2UbsZCvtv3Guhn4zVUO",
  "HR2PMZ61NVjiNYYdOVWLTWOMUbJdaN8LbF72du38jJaWmTxdtfFrzDdQ4Csm6BSt+w+y",
  "E5jyHKzYI0HHMF9pMdkARRy6Sf7JddnDexxkiyuHn8qrw9WC2H6j",
  "AateC2IgLmEIMIWGQd9WVT72Yx2UZjUyakftdNpefIV+prc5qObxsUdP1kQM1+aV9d7n+T+i/86e",
  "HgMMQ+DuSvbuVtFxbTIGpU6EqLMeqyHkubEOvgYwzMFg0Jc/9EQi9F+J",
  "DZxBGMoLIG9KN5rLS12dT1QIUGnGUuWjYeh2aAmUgOzwgzNQjFeVk0EAmznQvpqjvrAMxlj83XM75P10+iDW",
  "BM4hGftnIhTAL5i/X6SIkI6MlWQFzu6H2HIC4Lv7+R0c/wGU",
  "DziiH93bU9A+VydPbvuMmEojmJNtx3UZy8HY0+rE+Hi+",
  "H/kNMbcbNI55PER8T4CHT7PWUP1BliE9oGZEoI6P9lsK",
  "B9mrD6Z7EhoFTU08XSKtYTpdjP0Xk+0ao3EHx8260FR32JcJ8PGD",
  "B9f/C82mFraiJsv1KbgALDQbLc0oQX8PQ3nnXxpnZRrmaONdlkU+w/Qzyrmr7hzn/+cE",
  "EgN6Ex0WJnD2M8FvNgPbO+FvSJNvVVjwW/NCY94ZZLfLZbwJfdXdkXrzn5k6pIBLpNI0syUfxPmTy/ir9H6c+NQd/beV",
  "DK6dHTN1Qsu2ZgXKZpQhaaO5a86/ict8mmtfz3jt2BJS",
  "AEGqAGJ6H1MeIT7cJUi2K2cRMR1hT3sOUkrEWJEoXUX3chiqfOLWfWjXhccFkrRYnUyRo0DBpA55z6bj4maM6M3q9IOS+RoT+fHA/xn6",
  "GRshHOK1cnNCfw92hb5wkzb4pDG3q3jWsYtWv8pT0TB/10Hi6ut37cZt91Bi+CoH+NSq",
  "A+/LBPYDC5w5NKbfPeUuUMmwVCSqgn0+nz1Bv94dw0kM1CkQ4XpK/5KR",
  "CNKGH900N+XMOXq0UbNFYX4FZKeEaAWObz9myVXS1P5G1vgL2K9v2Ut36ADg7gSO",
  "BH7jE+FXH1oBIjZfQIqQWb8eWikEXzLNaPvDdMC4girLhZ9OhlnMlB6GoiUQonimulu10TGZ1nTY2MJL3rA54bDe56LK",
  "M9nVQLzrQ0Y0T1hIT/ptT/ymWoRtXXJJZLmzcamimPW4mc0on4iwoOtwo0uU0i13/Mpr/2K+",
  "BiMkDMcDFbPtX0hxaOkBcEtUfOzIiINLmoPFoGuhpIVZ0sB+1R4I1isB4KJZ4lyZ5NsN+stY/7WT",
  "AHrgCFcvEIZ6OvHqTBXdWx9iXJzeazo9c3xZdsfHek+wfTmPfWpJg2mQo1knqSqJrmG4sJalvBwH1f7e3VEG3tDf4Lkw5zaa52qk+ir2/8zI",
  "IJO1Vpd/V4B0g9kCiNbDkK1aoaDZqPPFskHWv70/wNzR16Gr7d7T",
  "ClU6EBJnFO1iF4spO1RLQHkWWQk1gpWkkATyn1Wnq5E4wDnZwmPr1Jfe21Dn4ZKw+4wR/uiJ",
  "BQ4IDFozFQcpF82xHB6YHagHNge9P4vEh5/1qmm7x/6GzVRp3qxN76TF98OA/YmH",
  "FIZdF920GY3vH3JnJHa4KyEmNHVuQp/6T5yIX0szaz6fbGLwcqmidYNFhIu5hhG7jIN8mphBpYYzqCa7xCT/xda74CqB+SPN+w8N",
  "A9PtOA+DOCIRP2snRRwVVqlBaZwpcejxdJJkdbjofEBrfaX2gSKen6fqtoEBuIcIx7Sv33pf6K2i/8Ww",
  "BDOgDN9pHndmIk0nI/LwLj8xSrDbWEW9X3v4aQFndms/jdSPkRuqxst008P+8Sp6+Nn2",
  "AJNGB49TEZFKEgsuM6hkSpnPTs9+XLVEYxKaZAfLbL5KfvnKmtDno3GNzuQr4NGW9F7k9GWR/L3o",
  "B4l+ERGEGEDVH7o5M560O1JMQGKRUGkhWwsfaAjvgOxLhWYuiFn2mzkryTkG7fc5/USs",
  "BM18DpKNK8IHL4jiMkhdRKg8gY8SkE6gn24NoiO+30fm307f4asW+Rx3",
  "EMRAEtOZF+YXIRvaMQ2JNbBTXBdOZcAHcHIPg1EIhXYsjonKn+Fwq2e/rKH/toxf3sSz56Nb",
  "IJG0KPjmLkKxQ7ynRMDIVIIiVQf0jYplk91loGWfoMZMw2xr0Q8t03Xb4ELn9lpl/SKs/yHc",
  "EFntE4tJIMmTP1JOQ9uIRgPaU61iVxmvXaMVcggyc1epewLln+JsteFz3nrc5Nbn",
  "JSVuL56SQQ+ZWEdTXTIgYttxaAQPdgEXelydgoP+h5uFtRrdzExA3Jve39Kv5hoI/a17",
  "A/krBHLYBvvuHUqSV/XqW2DyXM2qZPnBZdbGffm/n5iVpNGPrhQMyf9h581u+X60",
  "EuOpIBmIM2bxUIGHZYwjZ1Ghb9dWe6H1h6uTtOGstc9jwNj8xtgfzL4/2Gpl8zah9XO7",
  "BewFDqrzG9TcIT43JtQPSKXjdJIupA3UrGuftWnJtmvLuLjAy9tK0gZG2ijI32BM4cN84mXn+qGQ/YHY",
  "C0ZGNDOzQonRWax9ZQm8gisxlx5qmvIZq3gxs6ia02I26llc+LGq",
  "CnyJHVaWMc7cNxz0W9zZXNDqXbaiaQhFcHjTjbl2oH4FubMGwfNuyHzpyv4R3s6A4FtN5h1q68+9",
  "AZRKBVZLB4EoE+F6IrQpPwC3PyD9bODLcWLDeuEBiNm1n0Ktn/rSrwACv4C6xMEhz8lF0Gw43pNC6BU08oIu8q+u",
  "Hbj9JEzzKqYaO/64Rga7UD3oVwx/YHhGZRagfrXRq6lsvpnYy4tG6YxS75p778xG+CxV",
  "FGxiFONFJE7XRcjmT/nIWg5YXOYQY1YccLk1eVEghcTkn7D7pIkpqygNsb+0w4jB1kGo2tfe8nmj",
  "EtHkKDKfNfU1N8ryPeIDQmXxUJntVlLRWr3NXH4/aL+/axbpehP3gxYtmoMgo5dLsRnOz4wF4lv05VL2+095/7Tu",
  "FJjqLHXYd1JSeaU1ek8LetaNoDsdp60r4n5N5ffv6VEE+ipR/zG7",
  "BN48FLNhIg42I49YLnNMPswdYyY+bnxoichlnYyZqSRc2c3G26jo71WN",
  "F4qEIJfALqmqRJoOR/WYdYNtgpT/mEzjoJZrrwaVx8Nx5qEV8A3v/EWQ/ufk",
  "GIcpKPh/NaQ4VBiOWQiSdiJQhWHYkoIoy2g50V6x1LWF58fm6IP6++q1",
  "NHTJPH5+WiP5ZOm2ZS8Gaa7ka5lzeJtTg0NuiN7GlMoIp3JlsF56v2xk59kI/4VR",
  "HKuOIo1oNfvNNyUYRRtwSRvZUiK2ZJnhdboae4TRg+pEigcgkbGXn8lh0aVD1WIH8sTu",
  "DN7EESH9Ncp2OUO8OonyReezSklziAqzkkb8mpuGm5C5ndxL1kLC8R99/81U",
  "AJKhBQM9BncZC15NC7v4LBpBM6e/WDIbWSkdZHQDaQkjbLQ3b8Rxiw8oo3DowggA5G5r5uq2+kK3/0oh",
  "EBg0FZi5NAIgQcqvX5Nxa25Bcb/FgOumiDumimyAmziGrHM6uV6pxA7i2Slt7faU9bBL/oOQ",
  "AKB/BMzXDE5oG/F0LshVMj32Ncw0N8HfOCJuQF++QpeIRpKcgq1lhpxFhz2pkGPvn21otFV0zUEt0H372sBI6UEG9bEI+fz0/wBK",
  "AyTRF+VyIDnNJ5lZMTNIhAv4h0yvh2SAje5QkT4TlgY8mkcmnHignV5JnY5soodmrPJVrPxPydq4y4jK0Eyj1knv4oOx51EL/oHt",
  "EDRnKPhBNI0vPqp7QTQyVtarWjxfZOlrZnRoncezuCGfuIsnu+UY2Fxj33t762dl9lnA+tyj",
  "AVDQB226E8XgFaUlIWuyKhhMNAn8PED4TIuSajf4ddKAum6lx8xw0JvA7Vg+9A/u/c3Z",
  "EuJxFR6rHeFaKcGLLq1YOMvAQMsBYtrMip5ljjJqkWihmrPs0Oqr80KC/+W6",
  "AKsHD2ddD7znFVB7GvnOH5icM8AlOc5GTI2TWB9TX9SSc/mYfVZvlODylbBLmOQPmj8ZrDIirx1Ly3502c6+3c4N9H1S+lsd//nl",
  "EHIxJc63KjH6Rbi5SXiCSYw3U8RTVmVaXpCvbh0sg7rziFQMkI+nvUOM4+jn51/k7g76",
  "IT2SJoOoR/ZRShk3S4wLTzGAU695aerof1e3i05vn4XOn9GTpA0vwjzP2BBj2PXf31+n4cLX4mFv5MxE+qDr/xiw",
  "BAl+CQ5NC8t0ECxzFtx9Mu/TOZooQ+CgTk0lW7k0dlMchLYzml+MotKiqz0Kq3eMrMEexZkZ3tx06wOa82/7",
  "DwJZGjhNHVXxJe2aKVx3NKWVOhr5UmVQU1czU/UjaBX7ffE/hM1olhhuyObF+Kyn",
  "A7zbC81VDo7uKF77NneeYC28cEdKcKXxcWIeeWNteb7jmo2hxsQT0sUz2QxH2Xpf2u5x3pKd+H6U/gxC",
  "A0w6B+8bMR13Nl3wQnCSTnsAUPdriIddkYEHtaMnuclCyv3q5vrq6HeV78uh94Jj",
  "B2voFB4bFJraIY0TLRWDMb+mM9iLT/kjVgFEXOVrZ5/0cOkyesX9e08eiNwkoLCmuDGI0mzV3RJ6+ZZ1+nOD/xUJ/7cw",
  "CzitCz9JDUZeMDwwUEzzUJlIVn3AWr0oYMt4YOUpfCTMofs8pUAdsRkpwUQez7qD3hvM4ltP7RLE7idg+G2M",
  "BrUFEaq0GPqMP5DfSjGdYHKZb/0rnwfAn540qOgiuehAwYRm4ds96YCl",
  "BN2XBtRVEPkiEha+NkdmNy9pQjavStmvTaAzVTQ6ZSF9bBf5dQ+Gip5xnbkcwh2T+Mlr",
  "C1htDZV4IFohJ2KHSnhXWQfrYaKRlU5qlxwUmO4DoJXGpm9DtJqn0AXx1Olt1T675z1c8MXw8cGr",
  "EnVwGcDkGxKKIazrLZNMLnXHL2FXPbZiQFL1ZXO/bdkGdzMygsYipN0WsINVyBF3zujG1Jbm3qsD/B55",
  "ECwYUCBXUN3gUrNDZlKBehBrf82bptH3qxKXrGUos8fYv2u/xCO1xjoCzEIv",
  "AfGzFv0zLDMiM/DxSNv1XP3RYDqgZGeZn8i8+a7b",
  "AsHBBDJWDTOZLbn+L5aOPuTCWPuHYl3soFB0rUzTuBBix9AJ3rXp8H08",
  "BnZ0LNcuPAMmUxEhWDF2YOrvbY6AgHnRjo+K0WpY5VdN5n/l+iFC",
  "GTnaIubYPiblWdwKWtVxZTnjbgECfA6Lf3clhH5UjtJXocnLqXXFtJDi1+NZ8DNl9Jq3+OHR",
  "BSBDFJJVMS6BRMGzW8sZg7xVje7U1Zwg2j0K9plK",
  "DdbXHBh9L+hlM/0mZnuRZzvqaDUQkkf3oTslvJvvw6DL1c7t3sNp4TYr",
  "GqxjKPecL2q7RuYUT/LMWju6ZUbHgnVIk7idrAm00h6W+gYL",
  "DctXHaUmOWhWW2accdkkcgboddHbihCKj5Bbm4JKnjBln+EiqG+MyEyf",
  "JwvHLh5pTX6mTwSXUpL5UxfUdYOrfzlfkD5ImrNHxiSwzkoX1j5u4ATr4s02/+UV",
  "BT5JBo7aGm90P2G1UNJ1VEZ/X9PtYHwYZdV8bCGtdzykfVLekV7dmfMZxjbQynGb07Z28ir9+X1q",
  "GnX2UBukZo2DjZnynSD+y7EO2UEu53ds7dvA81ZR8/LN",
  "HL1bITztQjWgcyL7d/+tgANLpAyKpf+MqVbnrpe30cSb2lVw56aq+CuC/xgL",
  "BZX9N12BR/9uVXKqZQhya/7ufF17npbVq3bntSbU6lgS7nwQ+LBg",
  "GiCjR11fWCdAWN04WlQgZ383bF1m2HQk/9Zw",
  "BzNdB7UaKs11K+JyLBE2MeJENxClSyvWS26LZvq2moz8n/mIvtsK1QID7t2Y",
  "Cq26FgjmOBN/Qm/tVPKfZySniG9tjCddkYBisKK4svmbzv566YsI8FlT",
  "ARF6BqdARmBAT/h+Ysk+Z59Pg7TalLfwl7eUoLABrdLMwaXKw1Lgxf9ZzL9g3cZG+nLe/Cou",
  "INa/Jc7bL8uwRJ64Vn0bWryDdF5igSNejbJYjwMjnTlkrN+vyMV/2VmU4Gdr7ia79Asz+nBp",
  "Gs+3GyTVMW6cNSqzNoQ1RqV2SjD4UN7jbQ7YbvAhek3BsUwD5eUU578Q/axO/zBx",
  "CSYOCUajDkfYHOVQOkhKUAJtbLJkbj4Tfc4VfduQmndNqqlP1VSU/HKM",
  "C7HvKO/aWQdGY2rNbZ9hc7JJfF9FlAznltUerdsdtL+GtUH8zEWR2IyK5qeN8MVL8baS",
  "Fl2CIbmnL/YTQFJQREPLRjNcSa1dYb6VbmwxcOfAdq4Jj9Nsow9hw8ydy/tg1DVR3+r378ON+RqI++lr",
  "I80DJIwPJL8tK24rMkV9PjC+RfQlRgXFTzVjTzfKjHOvjW03lNTTmW/ct0JZ1n4I2OO+6p279UMb",
  "B4OpFyorGapCHHNEJzooM/BMNkpwNrG0UQ+pVu+EYuGkffUCnj9ewHBT+otE",
  "AEDQOWRcR7MqSHzEVpWBcIELjwHqrCJIxSkO",
  "EZOOSkleTxuDWDDRavDegXNqiFsms8kJvYFrw2fu6ux4/0jX",
  "DcjiE60eIRe/MoyOWtTMYjZhaA7obUG5cTOldXpQhYyDjWkXmYj3m3Ypnxiguuqs0OBg2Sgj33OB5MhP9Wzp",
  "Gf1EIM78JyX6XlF4Znzjb0qXkKbUo5ubtbz93mY65LKU8EMK8dSf9NpS",
  "BERgBZmUGqG6JX/1J/BbQGq2ZQbfb1WllIaVmkXcvzpTw8lo3sLE+Ftf",
  "G3HIHwzrICslIEq1Ls+gVz0CXADXXB0+fz8NhKEqmcKpnMEV2FsZ2sSR9JCP",
  "CiWLDSH7NAiyQM7ZXt53X26IaQODmSnYrKtTvZ/VxAHYxdsQxjAlyZFv3H2v",
  "CBgnDjQ6EFDvL0saRSz0UpJUVq3nbcVNeZOt6gfk",
  "DW16GVGlIVkkM8+ANQHtSmHETQnFX9NIZdTXm+sioPiNqETRt6ohyhpbzLNo1HrX65it+XzF+0nO+5X3",
  "CJSmIZ2sMvz4P1PVRK9ARYHCXqF+Yz1YiEw6izCxizfAytHE08yS2S+q4ODF6uu0",
  "B91UCT6PCZAmDwjLEKZOaIx4aqPKhgneho8FlNr/q7aQuTD3u3VA3q2G5Mr66iin9lLE",
  "BFzGFzbTKRwhMwJ2NeNvN/X/RU1dT+liZQfNa2S4d/MhfFzWiokrml5CnTJAozpCssRMvJ6d3tsq+K+7",
  "CUH+EqUTFB6PPWglTx4dVmpIgqRGrKUz0Xjc1rwb4QHt",
  "BzK4XvbdY54EaYJ8cGcwcoSKdY3EdpCkjTCgjdIln/jjpTHdsEV75iYM+aQZ+ls7/DSX",
  "GcjHIOCoI9m9Kw1FMEiXRsKMUqq6WjJ6atxtc649eqT6iG7IyySa3sdK6EjX9Nhk99vT",
  "BqabFBzRSVPOSjGCSnoqY362Ze09Z56qaQeud/g9hXfvkcW9oK9cqQGsqQz+rcHr1UwB9To/+TZM+ZUr",
  "CIyJPU4vTohrZWoKaMvMhT0SjbGzkbpFk2i6l9/wnTi/ube0uk6N1F3/2PTO27wp62ND9AqO+RH4+m/E",
  "Bjv0NSoOT+lKU2nAWRnJczq8f+w6hIWYz8MS0DHK5ZSC5dfc5rJl575r",
  "CusrD1qnEp1JGPMoNTfKOlEZRXoSR/SOUzBiVRzxWHYvZSAzbBavcreJd3nSfHU8hjTishpIxHzQ1VPv7z8w+Mgh",
  "TWCoXA8WXShkYK8yakYpiA3On306oM2XpNJnrhoGsKZix8KW8MSm+pOs",
  "B+riEcrNL2ANRrcfST+PUIjtWiraZxJ3cm2yeaHOjUkGnLpZsel29JYv",
  "HB6NKHomLN6zND6HN/yzP7UUUBr1UsMgW4/+XTPvXU6/ZulkdxbwemVIiVWpmBGeuejux3i/z4d12f1i9HN4",
  "Br8BJaRuNHeQSQ9sX1V9YuD/b8a5cD3/d4cOemG9fhtKmRfQnj65rKgiw15exhcayEJh4GVD6ZYO7bKm+a2R",
  "E0HyHZRPIfaqQyYcQ0+3TglAg+p1nVElslA8xV4U4JWm5UIb5ZBG9CL09Cmh/Orz",
  "IgL3Iwp+JoJUKOpTQJtzRr03WDAsbt2ofc4BfqTSkTgElwYan+9XobJipvx6uedrxJrn59bR/CvH/8bi",
  "A+SnBAX4J18jLLvLLw2JOw+oTg94Tr+RWtQnYKvRZTiZfI2ijgP+kJGjkd7cl65/oHOGpa8cqCgssohEwLyW2Sd++OCH",
  "IrTBK+YUMS5hPQMORLBBUK1NaxXLgPEbg5tgjBvEjWIXntoTrFHw0YXA08v81uzn669N7V15/rfW",
  "O8WpULPyYwlQZyrdbDrHcoW3dQAGh0x/jiqQmRgumXGLsgHc2kgw3AUN4Ab36qdl9fId",
  "DGaAMXpQS39lXMatn6Z8opE8qS+gvGDa2Fp08A8R",
  "BtdnILQTVjosYvllY4T5bugycpPxewgynlcfs8KXxQ73zGPV0y/j9bq4/6pv",
  "AKKJDMa6MoNPOCz8OdDkRjGGVq1CYwHGa229caKsjmAnnWmLqIN6tXewtZYKue1AzmMmzufI3SIx7c0t8ZVV9Dta/5+K",
  "AtG8GVEAUEWXX9KjZ+VldB/PdnNNgeZWnfYjwskBy1u3zZ0E0KCW3+jJ5+8378s78Ldj9xZB/8+5",
  "CIKGEyAtGycUIajxSg0AZVD/dPkGfKYIjTeD2T/k+Pjt/t1l",
  "BrNsGbb4ITl7PG4lRAHVUAO5XUhVbtddl+8UoITxpp7Fx1Dq2Lyx3qzh",
  "FzYuF9SZJuPOLbsaMZLsNGpKQIJ3RTYPT4+nUSo2Z0NDge3kjV2aml2dx1GG4TrO5pqK7QrH8ImH",
  "J4jzPGA4Q3SRRVi1R/shTh/OZMvEwJ7Ix6mLx8q81F8G2HLa54Jn",
  "BzITCAC/E9inKfWfK3BwLNyrMhD1SyqMU7ToXvY4YxHLY3z1a7XPdhPgepKJhVhRnm+FrhyGw9AExjqb7pdB8YJ6/tJ2/8LV",
  "BP+fCqxwC88KEtFJFe3jJkzHJzVWMEfyM51AQm6jSpMCVsWoaEwMagK9c7zof7hRggMLiG4jinyKknt8nYHxuFhXugWmy9R8zfpZ5bJa9Fpt",
  "BO27BREXHzIiJ7jSNQBeOLRjSnmFUrk2YTHUg1PRlCDDnNaToFAxoK63pw/QyjIc0QWV3bus6Aed",
  "KAOaMaPdQM+aQ2i1Z2YSb1U5ljAMl99Lo0KQv/W7wAYr2VhK7uGH9yKT+m8f/vXL",
  "FCGFMZciNSlpPOXoPYtjRqyCfutHmd6Zm1RNplA2ywdy1x2z",
  "C3gKDf2TF06UHOQGHt6JIUQ9MatSNIKwSm0mT7r1UAEjUKWBV7oiX09dYylKa1hibaqWcek1fE4LgjKDg/nyhHHVia+YmnYDo46UulJswzMrxl5z1VNK+rDy",
  "A3f1D+dPS+QRTUFzTWA8VhbUZjvRd2o9lO8noRR8sVYpw7cJ1tPc2IGe2ItA2l+m8FDB8MQB8ucy+YpE",
  "CDj0Fn1XKnbBX6FmaNeUeeTWhBmCpIi/rDsFvtkawmbCyU7m3arz",
  "D2OrGymyITyQM7WmOb6mQV8WTzQZUsJ7Z+dDaNZybly8bphccSNfhb/WigU7j2YvuMJXvlbTyTWQ",
  "DKLUNHbrNdpLQD8CRDsUcuipfgJfjx+4rNnWwG8J4tVh5KBf9DNC",
  "AFaxS/GuUt7nWSntYmZTdujzfRVgfSNfjnMBkow3mVR1oI+gpjUgyA671UEL2ILm31Uo4JUB+q+m",
  "BMrQDPCQDr9jFkZBHPNeM9qbTG58TwEKaA7ig7TTs7KEw2akxJpCxwud0sZV6mQb69fk/Csi",
  "Akq5FGaAFMkzF2b6HQAZJFnvLWVENK0+etdkifyDmRFqmkPTmqwDyy8C1B1H1HOv4W6B",
  "AC6oCGfPJrHoPQJpPgRSTVnZcIOLjBg9juFhks1qqOXYxZImx9pX1mIU2KOm3oge4psH",
  "C0/nKvz3XycEZ/0KaO/6m1MRpWIEwdgpxADQ4AZS4n6+7w0a8qY4",
  "G4iLICkBLAjnLRRTQfXsW/++csA8hTX6jM+6lA/NmcFfoN+nx5CAzndo2L4B4Sw1",
  "BA9xBtbCCVqbDLs6GVesIaGxJ319MZe4TGaCX20+YGv/YmSfaLHwbueNcBk3dQpAhSaFkPd7oKNvxi7bylwd0pdy3GsY3K+J88VB",
  "AG8XDLfjDjLwKVYdKXGMPnb/SzAOUf7rXJEVb/D1cOxOdkN6ftWbg1fOjn/Hl5XBo01euSjYujv+ynpKzFM24K1n6Gxp6OCB9Dq19EFi9evl+DKU+paR",
  "CpRHUETyVSYGZ+TAlg3psqe57dMK78qW+X+l",
  "Azq5E3kDIDBQJTH9JdIpJnMjKLNNNhWOUhxkWJo2Xd6JXqA0ZVBaa5yHbESGfKVjg8yVkG+4kh69nIVin0neoItHpj+Qv0F21DWt3Ox54Ybn87tq9SOv+MiK+PhI/Du8",
  "AvqrEUjRGo1EGxQxNSbNNhEGRA4HdKuLgyzZnAlXnLaitmgwy/HBzPUb3qCE538s88uJ",
  "A2/2GzNhJR2tOmETPmfoPtz6QE4GSMsCVM0CXz9qZ0KemDMpoyhoscWUt4AsvyLyy23vy/ed3Lim4B644kNj7E/J",
  "C/ehE2caE4yEI/N8UN0DatlRjHximdnFnvZKn749zeYl2KVQ4m6B8Fbg/nFa",
  "OoxlQAQvUUh/aPWej39VkGvElICxnm7gsPDqxVfn1f665I725fXZ9Z+a+xw8",
  "ECn3FxR2VY4NXKl7g8wvhMOwiG1+ktbVnYFMwWCe3E4z3GVR4MXN4gAg5BQT6NT/7rmT9FMb9FnI",
  "FT3kNZwzOJp9SqDHUF1YVZKMWJq7XLHcalM3cPTtftMsijpNnanUvnCWvwDQzipg0oEn6Ab49U+M/Q7l",
  "DobEEz8VFTn9LFMPOkcHRULNXl0OZWjAZcxdeztBfL3JkJnnl2RQvXLExhWb4Z9N+RCu+/SS",
  "A+xZHhfhK2WSNSjEP0alT5FvVMEDX1vdeqbAfP7NmcmvnL8QnyJHoYt7o9ovty5nvO+Rxk3c0AlB1DlF4pba5yz/+LcO+mLL/bJU",
  "A3cWEQ9fG0nbILDGKizVMaqtdFvTjstJtprKxDGczZ9nzzAJ1VKl4Dce5F7j7z3m",
  "Cz+xDsk/FUC/K4FQN4SdOh4EXhslerzSkJKyn9ajphOkp32/smXjzTi40EgJ0eLn",
  "ARfpIdJ9J9c9KnYcSAyCYymMevfmfXrsg8QjhHRPjPc6oEU+piSysrdhvnWpw+fFzOBC1g/u9p0x+rJc/9qW",
  "B5TnFPboHin5Idq1Pt5wSfGaXMHhdq1rnVyprHUDtT9LvMh70Xg/6x2s80Ej9LZi",
  "AUIBJ4HqK8rbLuT2NHZGQkHCUHW+UnjBb8VvdVfmemBzmQ3VtARUxsP9zGuu4OWy",
  "J/3PXUsoX330e1OniESHjQZLoxJjsHjjzfgj0ajo3VZk6SzV7onu9qoR/w2M",
  "C1FhIHkxLzm9MP4jN7HuU+/PcBmCdHjsegmlkibColRgsL6awFgExJmd5pr0",
  "AsZXEANmF2ZVMcMTTr5UcGNpeyvcgnLZjFTQnEGvoHI8plqHyy5d0xP93SYt4E+E",
  "LJc3LxqTMPYtOeyXPQHERgwpTB6mTVk0WORjddEtfv0mlB25n+7zoZEasBUbu8vF1uud2KMB8K4f",
  "CoRXG8fKKrEoLBz7Lh4zVUhPZQrXaO9VdwBPeyRfiBxRqXNAvXEUxTS8yhpv6qYb8jF8+2Iw",
  "Cg6GGi7eImk5QdWBQ4w4Uf6HaffKbAwse1OJfRsTn6UyvgTjwIIx27YD5MMl56/g8Sg89CSd+t2R",
  "BGKDCnWdDLqVFh5sGVcHJ29qN78pQkdHVL3Pb4gRuXAd0N1I4KT0/6kl",
  "AE2iAG5yImNROAAaPL3DR5WdXOc/ZE/UbJAIcaFihnoqi764kwmKo0y5pX4wqKzsuqZ0wl6uycyM1BR64nKE+h6I/mPa/yXy",
  "AxvRCDjYHq/CNRQ3TFcpVrRZYoUwcZuWpRvCuOENvI3zw7fj3+d/6epd7dJl78nx",
  "AiiyEigGFr10F367K9xWNjMQRETAXtM2aO48cf7ugok2n0k5pcOctxbgv2Irv7an0XS21V6i/twb",
  "CHptFvDVLCk1L1YzOt0AR9aZY4LKa8L+bXj2irZDmPPLp3InqpBuxbleyWGr1u0Y2FdG2Ltn5Mzg5id17vZK9Q/F",
  "AWPZBri+DJvTEBA4L/XTMJkVNGkAPtb7SehnUmHGWhgwXz7FcM6MchdHrqh3576m7wdf8pcE",
  "ASyhAS01CC6QHol/J3ldLwxcM+XNOFrCQ3ABQ/YHWPMhYnBdYzRxatisdt43lB1xmdkgoPdowEQqxMFA07y72KSr26Dk5uiq6tVP",
  "DNL7ENQoIdk3M2p0QGPKSZu2aPT5bdYNgFUqi1wNjKwglIAMmo+9vF8sz4H30TgY4hjZ6uaD/8GL",
  "AIbYBiI3GtWfHsa/M5v2ehn+iDeFoBFfo2Uf0N3U1D1x3wL94MUo7soE9Fkj+jbu",
  "B3/DDjW2D8J3JAfaMz1LRvgbSWgIS68BUjATafcgmY85mj8Mp5pmqFTFxXKux4Os2x7h7erL",
  "F5chGTGbHhGyMPtSP5bARZkoR8nDVydcXDf1aWaEam1egqGcg1hvn2Gfq9y/tcJrvyHv0AwD0yzE1E1u4Z6o+1Jw/vSB",
  "BEDUF9mpKzJmK7SkLSb3NvVkOvwHUFi0W8iQiRsmmjtdoS7dr3YAsRpiv8A11unJ3rhF/dr4",
  "BPWBFMb2FPHwKssdM2/KNIFmNjI5QAqzRXarXa+rcOBcc7mPediKjl1ikNDRnl/8tIOWtpol4V7I52Wm",
  "EnYSFDpwM/4zNojOTlbZWqjkclkPkjmQsmU+vKiny79w",
  "DOthGwZlL9qMM6DROCNRUUqEYs8DdWHjdudEkVzYlIzOngXbqJRmv+utxz102MGf",
  "AJ8+AduME6ALM7RcNW3SO5wqPmgKQ7b+XME8ZcpYb3ELh3wXjdgsvdPz2qvf5a7W5hf6+k9U",
  "GrIBG4xVNHWhQ/78TOmXUHUZUngcU74VW2ybXKr0aBTnlou7oWPvuNkVujuCu/vivo2/0Wvz4OUN7gMx",
  "DMcwDfIKHCcdKOHhLJ1CNWy3OMnOOZO0QvTcSg1uZjgfcefPn3oFpWmrvEl+vsKg31Pe4bcO5MB76O3091DV+Z88",
  "ENTzISzgKSJ9LI/YMXZJRDFXU0afZP1Oapnwa/PKifpfkJazlkcgrnLH1QOD10YC3tCr",
  "ADJuCa46HEGNIYOoIy87J/ENNJnMNiNiQIdERJ1XjnJ4nFd0oHGXyy24zbbJ4E7f5Hak6qKB7EV97eQX8cmC+Hv+",
  "DcHLDdHqPQEfR6PSXjzTkswgn+5kwgMewsX8zlMNzsSX0OXt1tsb3obU5tKe+Ugu",
  "L1t8S6V5XpObYudpZQoya367bnl8dXkUi+gHlzcAp7Bgwmnew/+G7x1M",
  "ALekBYaqFHTfM8zCXNmiX2NZZeK+aJEZehlNmFiknXyJn6SNrvLDy7cxznrA1RQo6Rqw+Yqs",
  "AIh6BW7ADz/zEseFGVZiG5/pJMCoM8d7UI1/e//unSnipct/qwYJwMP90lPN1Qml2Aht2hDq7TdY8P5Z",
  "ADcBAHgDD1LoFIx8FwJBINUpLStHNv6HROdbSjd2T9/IZPpLamK1fOKQgFWii+LqjGjfj1f3mFPCmtuin5JrqH+WxZTx1U5M4c904nHf7IYa/mM1/pO2",
  "Aqw0ErUQRK8CRLSDY++vZRW0k+XgoZNbo2LettZau1Nw1Pin6zJe78lM+L2i/r/O/9KY",
  "A2n2EdQgIE4WIItSQmVgZ3FJhMc0oIn9o0Jx7fpE/frB",
  "B6OlCyRZEeitHJa8IbXpI2uFMy10QjuXT61yUFHQaBDhbGu0cmMzeIaCeSWujFVBoAbKtCSstWRpyQmQy/A83p86",
  "I3ORNiAkTnKsWheLWvdOZSKYdMQGimRf591n9xun",
  "Crr5ENjQGP2pGp/vMZESRJenXPIIZsMxatgHaxwDdkX3gLrrjJsej9YXkfw/n7zzp55w5lMq7J4U8hyO9ph0/Szx",
  "Fv5dHWY2I7+iLn1/MN7TMXDUPZFfUKXlhtRKlH9nl7+hmo8YoXaYqf/CrBk6uASZuAf/vfL30ckT+QWn/8Dm",
  "AWdLDs9RHP+3Mt2pTWkXbKfJdxh1gj+4i4b7kz9vy8587A5h8FYa+OQ5",
  "DlVVDmRaGTjsR6jwWahsWhFMYKFSbCSWeUVZiSiVlzJ9omOcsIsns08PuU8svL2k2Rz/7azX+LXS",
  "A0DwETMhF5Z8HJksIEZRJqNCNaFPWXNqXDdQXEUjYIjoYWdWZGDAaCj8cv7Md8deeKW2gqD3oKJjuBxFwXOQxTTPyRnx/I3N/vPc",
  "DC8sDi5XIgQlMFORPRnRPt8DR7xjTz2caGUza9q/dGzhdvFbjnJ1kez6ned/qfLFrHP1ty0dyJO25wtY51yw6jPj",
  "BJuPFqIpUsEiWi/xa9EzcenSexJlq4vssqvOtpmA2E/180ID",
  "RNkRS6AEasiPdIJodMpQdcYSn9VZsmSZtzFuwgaPxGWpxtQJ2T1G9VMw",
  "CQpIDOq8F9RNL7voWcCef5VsjHfGkVwzleOOmqd+wpX91XHw1lk//lUp/9lM",
  "BoMRDJCmKhYqNkkxPPcLP3jURP28SRBVVZrgo3zg0tuN5ZcL+k6v",
  "AMyEBwaTCRXzELj/JrvIPpYRR7esUnd3ZBOoZ6EHeKa0mZCNnRU1uHXA0/ci2TVl2Xr47gKM",
  "ASO5BUmNDHuQIZ9rYMkTgrldkqZtmlYenn4/vEjZ3R0w510O55rh9Iki/wxC",
  "A6i3CeGiP+yJUBIlU9knXbsCacVAa6U5eSJFi8oAmlMe378Z/jVt",
  "Asz1I8UUJFt+LKCQNJknVvUoWkhXZat3Z7BWgGsqjhHqk+i4npK92Ghb2Ju043q852BZ6xaV9MRF",
  "BhTsB0cODcEmG78ZIaMlJCTeKKxYLZRJRg8tZKSLdd54qDvswgJ5y9cx1BEi5PRI5Y959slA",
  "Jh/YMD1zNltEVqN3YubEdv8Fe7wjkXSZmr/kogU0qDD/sQKusqais5VgumbqxYoVzWGLzvYP4doA5nvZ8pU285CW+aAg",
  "ALb/BYYFB196KsMGM8wdNNckQwY1Rc34Rhf0Yr11Zw8CeD7BhLAkrTtZrm59vhmyyfup13Kn+mcV",
  "B6/qIT1nPF/MVLyFVbrdVnFSWGdmcFzckOW7kx4tnxrjoKO2pUCf00QY7hry8Whe+fam+ivd/zIw",
  "FTftJTpDO99CSiUvbhKGciIkn5HGpXtlqlFz32uf4c7P/mKQ/ySo",
  "CRpFE4jvF3K8Ka4MdQMYeBulfi92jXnfmWTImmuEnTe/tPHpu1gh0O7+2TcP",
  "BOnuCs5mEV1yIBCUJLBmRluVmwexvovawFt4wMSJwfVJ0yFT3kIL5I5l8DFG+NVv",
  "EFVmE2JjMHCIS3gpVjYIaCD9brn1cmKOdu2fgjmKmpu5oco3tBe23p6V5kr97Uyq",
  "BlyKQksRU6UgZI/UZkBVa1wrbQogflj1h2ZhiJJ+pVCi1RWc9Zbs",
  "Axv7M+SDUnjUXPFjatdidtztg5w0kRndxqda064p4YUK+n97",
  "DVJWDcJoMHXJOXIgR8uvVom4a0yljq1Mj8WTl778mfauuAP025//5xRP7UIy7jNY8zMp9OMf",
  "HaTAL6NfMyWKM6tRSj2VX/Dicvicoi9Y05FC5htz/z0O",
  "FmeRGCsdGT3GMtjJOmXwO6GnO+VlQq+OQ5xlRro2Tn7dUA8KVpzsWhwCWvBnaGCOdRt+mcpfq/F9wRqD2EkU2x2X4SF56Nkk6seF60Xd7awy8vra/09C",
  "AehJEIIfIrPQLs/aRZLpT8lhWSrgXDarZIVDduGkgpuljAtkjLZHm6ztoKG+sWElscsbs2eVuOveysuC1z8K2fYy55W/9ojf+YI4",
  "Deh4E3jJG5RoMa2wQF7tT8UzgaMCmjoT3rb75wqz944q",
  "B8dTCBN5DpSXEgWYFMWsHa5eJ4f3KqBwM0tbQht+W/UOXdEBZTpZg8p3iBRnmsAxtpjbvpa50VSt1dMI1pfs4HdW",
  "E6kwM/zpWV7/Z4bNcOmKmv67n9S0smP0uaTuvhyA2Wvr3pu349nB+brT",
  "EJLoMB86TdLvUoaLa2OxdVp7jedrlHqmrRO5uBxauLV+",
  "BCE7BDGDBoJsOPF+SlX7ZckOZq9ud9RsgNVdg1YAhST0hwlGmN1NniHFw3SL0Rp00tro",
  "GvAKJ/J4P8eVZUXbZUrRZ7KUdXQpd8GafNlwilMvnRSQyGtx1GwK4OPD70ic9B92+O3J",
  "Bv8kFSoZHxlhN9FBOsIlRh8AYCv4b7mzsgoHvEg0whjowyq01TZw55o86B9V8BFN",
  "E9MJJv7UM2dGQAamYG88ZPwEa/KAfFENhnlsn2yfpW/rqBBzs1BUyCGaz8a80r0U3s9h3uGo72O7",
  "ByNZEpPKFqtvGBAGGJjEI7QbJXb0Ki8fNB7BS+1cWkeyYIOXZVK/eE6nij11qlysquNqrJlq70sn9PGH9YoR",
  "DcCBHSI0HmExKPDBRxFaTrIbfytIjSTXn+0arzR0tEk8wgHUxiX/xjzC9NJ89qz6+PZw",
  "EwX/IcX6KrgURpZSR9W6Up7xV0YYhNx0nrX4oKO3s3Y1xrc+x1SQzNzp0s0h57OE8hjF8pSR",
  "BYVgBnoCBprSEAvjJuZyO3QpYfeJYrzQY7RWZeF0ej2OrG4ZwuIaxfLr4EEU6YDj6ZFm6/T7930N+Yli",
  "Qh4SRLzvVbo4ZV5Bf7bngexFg8ZGjMSfjaXqkx2InSz2vbj1zbcg2B0S3wgN7iII8/7F9AVy9ODu+QYv",
  "DrydFh1xI92lKbvcRK7MWIcEXQdGXZ1vgqqSmcEJn8soqd78ub75yDwC57Ki8Uu7+tlU/mHr",
  "I/g3NYeWN5rdOpnUSI/ZZRRqfGlzpVq5p6dH2MsW3ufH+LxY",
  "AM7tJhROJmTTVBb7Vz3DdDp3dQA/id6OkTM8kdDElGwqmuh8n4FRuB3rusYbv0c724Ja4Qbc",
  "EM09EZrfKB4QLm3vRmVBS8SMWj4BZwauZ33EaivfarbfbBaYeqWoh0Z4jE44mPP/nCgloAWApjf/sd2ts862y+7y0u4r1P+U1sm57i4M8Y7U8jnR9YQA/Axp",
  "M2zUTphPVZv0dZFlgpzPiQzjkYxalLGOpU/9qVflqyHowcn7wpVtzZ94z9qB00JQ2Glg7NGf",
  "BrM4DZ26DnKiD4w/EsjbP8g/SDajWALQWJexYnWGYtU2irXJkIvhvPdYvYJPyuDH1udO15436Vab9WNQ9zs++aHI+n7W",
  "A15DC7WuDlx5KZ/fLj1GMotJNKN0TLSCTqa4VokTauRMisjbl75XnUVcoT0uqA/Tx/nFyKs+zzvz8o/69Bcr",
  "E9RnK/x8NT0/QUKAhIcwmJTmm48qy0+q58sI68w1/hRp/zxp",
  "CF5XCTIGJkscLBJqMvagTP7EYzsSZSzQbCNMfIHZuno+vLxaxxQSyFJm2Ru16By66K/V7UTw7auN+NS+",
  "BWkXB7xTDxuGMg5YVhuXXDYGXTaxYogGbws7d1hpiI02iorXkhsKxHjfyw5sy+so2JiC8X1S",
  "AsKOOR15PUU8QF5IRdcGVBQjWdFRZx8UjGa6lMdRmjlum/hwoA8vuYcgvJEDw82D5woO",
  "BGKBEgTzJnJvb1AUd/ACg/ysimxQlsaKuln/x4Vcyb9vytr32E6r4Jp17/kA8mfe9qZI",
  "BmrJH0LfJaE7Jk0yM/xETF4GTup5XCvxYu2cZXOkZ+zKhJeGjevFjpEek+4NnktWrqOAsMMlw6vV6ZU0+Sjw",
  "FofRIiAlJvX5SL/WVqF5WAktXExsa2MMhXRglo0pm/SKnV3CpnsWueF3v62by7BNzvb20VHt2Dfv64PI8IW4+h5T",
  "C19IFGscGUU3GphQKguePjGLSONYSlVWYFwTdRcAg8IVoJwqrFFcxwdOyg3t0M4R3tyJ5+Nu+NYj",
  "IntxeloplcY7n7sBvc44z3KE0Xus02dL2TQb/2cI",
  "Ch1qT945WkPKYCtTYEpBcIeMc5rWk6P6mlTUqSlMvEePyuNDywJFznbo1vmE2LDo",
  "AL/gFyplQHauUIFSdAHHeSD7h/PImlHUm+Pyo9BAv5W/wITqxjpE0O5U1LEk4eWx7Ll4",
  "B4PgFvMeIPKbMJRTOFBDQiRIXoCfXrS9mc6hoPBNvbf91q+t2GcR2hQV/Aie",
  "AN68Db/cHNFCOBJrWXbAXupvYwYCb574cTM2ftGLrzPPvR+bvTj31ix65NyG+PXL/yfN",
  "EEIDEIXGGYWJMDwpOAZsT4z0Up5MVrnfbGEPfiUAhF2ujkfpl/a9qC+1ufnd2FBV3+xu",
  "BYS7FXIOH7LzJmhuSm28Uk3FVWm3bm6ndbmJdo9tjWSEwkyr1K6h4uwK79r9",
  "A90cCGrKENHXS81/T+ECXzcmdeLud7aFfPExfU6VkxzjlFzioIuVrLT4tOZbvPDdyA7W2UyB+NCj",
  "ElL2GPzwK0PRNEjjO3+LU+mxdyocg5CkqKtn",
  "C/IKFKUEF0LLIW10Lju+MiF6OwvtTm9pX70EbJ9ReZjBfcX8lFqNmmo6nZTYqA/CsMH6xjSS1E+A2bbV3uci3//b+xCG",
  "BNf2Jg1jMMAnOnYBQE29TTWqq+furm3lr3Ldx7Yo2H934+Yt61PK637e+lfZ",
  "GguvKtjIQMG4T1QqXwLVY0xdcmFEhnhPnkZfnn5ArZxMtL2uw9yh6RCZ9Oo9+a64",
  "Ca0lC0H0Ts1FT061UraynaFGpU9YskU6xM2N43t897gU/31S",
  "BrKTH7JCJVkuJxzaOf4iSUnRVd7xYnThYqOXfurWgcGpkNNMlH6Jn4kwvijbw1X+xKDt9oI4+aEj/DNt",
  "AEroBM71EUjsLB9gQ3viTocgbJKedGlgfrFsgRvTodHqtxEL30lf4Ik47MGA9BaG+R3w",
  "HNZ/Ht4JK/vXbsxqb40mhIaLhXelmJRBrRwxtQLq8xcJ/rBI",
  "FA/1FT2aIJMtPg1OZSwrfIE0kw0soGcYqfA8zKEl7aro+NQZ",
  "B0/OEFtmEHviGQ9vHt1xIMsMIxhyXNZRcQUYgwiqjkFsqx9hrptCst0QtkQBwE2+2qbI3nxV51r99+YV",
  "KbjUQc9tXQF0XdosXxs7ZShKZx5viWocliyipnB/p49YqBOTzoeX3/qJ5FkI",
  "EgROUs8YZIRli/eun5oOqMkaqZ7/3aXe9fhn+oVK",
  "Bsr5DBJvDpZXH1+4PC50Q/pHRtWjVugXb994gjuggnp1kCNHl8BxnkqxsgoQ4YO8+bmJ/ohg",
  "CyYAPvsjRMJxZl02a2JnnV0dr8EsxSH64KGe8v1Y9C7s9vi9/En4",
  "H28rM9X/N9KeOwMIUDkpav3uhwf8jw3Vp81CtPwctW5f0tme255E5Qe+5+LJ72BA9Std+4Se",
  "HpKuHto7IIDTL81hMtemNSsGSIBPTC2+VcGcZUSRfJmanRIloH9+0PDk4Xse+Ox/",
  "HRKIIk5TPNpgPyJ2QWsSYCqubsrvh0rsmlQvxJCg122G4AAb6Oag6hD+",
  "IIGvKqeTLIQjNzTiUaGkY47JZjw5ZzbVaDoGbN+hioUPxf2v0rvK4BLv+Uxb",
  "O2NlPjPzRc88UjeqXPIQZvXHdPxzepijfTI/ki04n7J0tnvJy9tm",
  "BuNfHdV3IwfMJsD0LWeEM0hXPLfUW8v/YwVdbcNSdwkkiW8KiaIxnmMXn7ymqiuPrzMqsQ5yzlBM3lHE7IP1/7Zn",
  "AFfHGaNPM3pFVrk6XJ2yYw2+ZQgycvdXdml6e6EnfygWhBytj/H/nXWDsqEwuMdWufk4zAaH5BnT7uVh9EdS",
  "GVz4IRxsJ4SgLMnpPcjMQh2TUFGPWTukX2Oravj0ejxEiWcTn5ztwf10wkNw5/sv/1Ew",
  "Bqh0FWFqIOFEKSQROPYKQn1AZVz3fLIAggrLg7xbkfNDkxw+2Uvc6Qim6wT8+QTl+cEj/uld",
  "AY7IA2gcFmnIINW9JBdaLj3wYRpEbuNVmEF1m7KGuDS8wE9yx1Dtyjwd4k9g8cdE",
  "AowrCrdhF0ImGY7DIE9iIxHfKAYFMZ7kNVkRNYFJSwx3TrttXe+HaN86jJBqsjyW2/tS4CtV7rsf9kGe+w/h",
  "IxmDO+41RRzpSKl3TTUFTr+AXHixa+1xgZpvicgLn6rSwhTsw2kI2H7S2MAR7dPx+G9J",
  "Ds1tNqNQVnvKYx3DdLbIfDpvnAREnij60uzh/87N",
  "ERG3E4r3LMg8L329UdpYVtGgi7shjXfLpU6zqyITryM0sJT2wpQj1Jb65cIM",
  "BvUoLQbzQ/PYXxZMbsLBfmI6gO0fh8JVmzn/tci50WWs/DLI",
  "AEpDAq5tBM5QGixEIt+oMy+eXAKlZCulbGvZbw/Tdg8Wjw3RlWQ0rQqUv4i47vv383Hk/wHD",
  "AE+IDy54EBxkUvRpU6qiV0/XX0WgcXdngJlpiKYmjj27knKIrygpvGnEx/2CyjlPyoqp07yU9eIj",
  "F1qMHUokIzLQL7U3MbdKNI6oN9oQP+bXRLfIW0gkZC2CbfW3hvVLjYs5roVRtvZmv9k21BDZ1GdB17+B3Fnl9ls5",
  "D5QhFsU1KFHiMJbWSQJtTU1rW9eZZcrqa57PhC83i2mTjP1Gj8tUr2yZ2Jc44OL37Kzq9cDE+oeg",
  "D+wJFrbRKbgvLFI0P8zhQRuaRbIdSMtfTyi5XxqWaOOMkAAplJoQu5y6xS9nx3O7yRS90o/129N76x8H",
  "AQhyEgOpEm6kFMgkGvtHL7zhMoP+M8GePRZlShDjULlpUs5zW4tbZl3Ub0uAhQA6hSUijL3PluLXwivhxUp1x4QSzmzZ4lL35yqf90Q9",
  "DK7MFR4dHTOkKKczL6shU0v1VdLBZMdshPZMmmuOonmYpOyt4ccQ",
  "AGKpCyVbIT8LNtEDR0FpSTmVT3s9UDNCa2HCeTJtg5qxk99BlDcynUzAo0DwpA6oufOl32Eg4KD576ZA/vnz",
  "NAdBSUPZUjy7X8OpYFrJjXPbmhrduomzvw7awfGD5qup7cac81bP",
  "AR02C+UMF3LyIIAuNKcOU6H5cU0agbz3gn1tnz1wpKL9qxsb4Xp5",
  "DmK/GOCsHcAOHeK2OtfYcXfqqQCvtwtmwiu6x+ZP0fSI2K+e3pQW43Ln9G0a+KWU+syh",
  "AFt0BWu8Osn5RytxTnx5TvoDXzL8esLWkk87qkvU",
  "C4T3JpM5MCkjM9oERP+lRWTGV6sqXXJ4Yb8wZKyRaPDecEClfTGamc1XnKtjsXuRy5tB0i2m3RPz",
  "DMcyEi9gP/fBVe6rXaoraOkwbo98dC3ZfOz3gj+6lKAZmui1rqukr+yctPhguMLNxoqw4lzI5Igy7YSx8eCb9+U8/lex",
  "AHsPAi8eGk6eGquxTCiYVbjmXJ0NmyLwo1lWsZ7Exidf4Llf9Eat+isl",
  "CGXpEmXGL95qTYfFUFDqWFk3cdAp7d8C",
  "AFKNLEI+NHBpPUShW+cdZVxScmKpfLFbjob0n1XWoJc/0UIh0oQW1EGl2DR+2xf/4ZLf+QRA",
  "BQ43ELDEEaYFE7AkF83gQS3fU/+3YIQYa4xda8+bdiK/hg1DpQB8sZVTzVSY3qx8/x64",
  "DqSSIwsMKmGPNHWdS/heXzz3X0tiZMroZt1MgPYBjJY8tOF3vYkXv2041QoY2Rpy26/z4Cqw+w88",
  "CF9PCTbjELBKE4usHJyNJpsGMdgIN3jzRRxERTDpY+/daRJ9e0D5kbxXn8o1yOg4z8VC15eK2JOV2LFI9UlW",
  "BTpLCZgoKzucUsV6WTtqZTKoZaMmZph3aQGWgQY4qEdDvPeIwcvyw9tXxsujx9fB1Wfx3bb+",
  "AJN1BKaPEN1QFwgoGZMiM6iTP5YLQlJARkRGXLVzb1njcAEddT/Oik/9lKf4qyFuv/SGwSYK0WvR1gOT4NHF4d/N5Wmh7h1K9F8T9GXA",
  "FTEZF26aMlsfNfSTTo4DUGlQfLNDgOx6hxoMmzlandjgsSmqsjSlyXITyvFt3TnI",
  "BM2rBqHQDpK8Mj7KWwH7a7jfgjx8kZxAn248oiPtwuIlxIVz30gV4atF6N3x+Rym",
  "F+ZGIp56JjH2PZa2RJ5GWbAgfMqof8idibtwmJL3ml9kvT8AwElk0la22sTz32Ay5tBy/O7a",
  "DALGGnX7GumfKPkVR8T7TShnThrRe8RokdywoGXOsegnvnkZ4EMW9lqU+geE",
  "EGQeK41IRG7ESME4Z+yybK3tcj8Ec9tieBdLgAb9hAgHn2lOn+KbxS//3nsL6N0/",
  "AQ4+B9eJFrYsGoCsJql6KO8+KbeKM4t6RvSobjq7du28mJ2AoV3Rrb0YuqJaxxXV2MkV2qiH52wU7r7l/1S0",
  "GvqiLC4iXM3ZmuDfm2lPn5jErhQ7tn/Fxbqb0r0P170j",
  "IxzAOllVUIG2ZQfwaaNDbsdmhI/MjTHRotH8o66HstfEyLw88DtW",
  "DqsiFeygIT5mN49hORCsUIoXbIOadvRGfIN2pA4DrOTly94TzRi8z6Zt11Ek4kdK4mYW6mFm/vPa",
  "C0Z1GriIU4sGbABnbMLncXCMdy5Ber7hhy7vp6MXq3hgr9RV6X5I+JGj",
  "Br0aCny4FGJdF3JNHVbFMc8LVyjRbn5NgnzIoDmuoH40oT1SpbcutNHo3/nk4Ft8",
  "A2wiBz9LB4FXFDQpGtpBKPEzKeDqTWUsa7aQe21WlM42p1lArPHJr+Ezt6Y62K752vhH6Yu68LWI+ch6",
  "Bw+mCCDnHNt7SEWCZRbPZ7ACaJLzaPtNbeTFdV9qfUStjHe+k79gmNR5qK94qcZ8rBpbxoQFzUQM3fy23nw/804z9OwJ+f+x",
  "ASAzHgdrIqvJLv/uT/n3dgrddtYlfgnYhHu2hdbuhm9jjoFzn7EqraPDtHOWtw0/",
  "DMaNG9mdQ5EbUJocU26JWr38X+D0X/Q3icKsju6CmoNPpUDxulATwMpgyR024lwj4twM/7Ud",
  "DFfkLFz2TMXpbc+Io1ixp61aryibxbb7yesIy9ln+iqA/cZV/zHq",
  "CCnHDAgHJqVoNPQPSEmAY+95derLgk0kg4pWhSH9h25Ymun91oCp2tvB4btJ5jro5pK95y9H7d5d",
  "AmFUAqZJDJ92F4qzLVLOP4z+WQi/WgHSW0eggpUukXeGmV0Mn29iuGRU1EEA5jhU/ugT",
  "KTNJMbPQT7oPdiJ/fZMypAfGqN+rrnVisI80tVtqy/zZ8/MI",
  "H7veNBnoNHT4O/lMPaTYR7wyT7MPT917WiQoX0q9iN71k8SJlNZMnpp/q24+tHcotPDqtfBQu8dAv2yT",
  "M/HFRRufRer+SnimZ77RdbpJftn8l/TBpQKKpy37tR0Uy7MC0pSW3tdm9rNz+NIq",
  "DDhDDN7zEU4dTu0FYoX3Z3x4Z7AQaQDxcIKEmpu1ryo2uqkh49KX/82D",
  "AJLQBxLxC158JczoM6fuSplZT7DlWDJKWcT/Z/mmgaXtiX7Omg2jm/rVo3EXs6oe4NEg7QTs8TW++kLm/0pQ",
  "DtL7JIehd0zBgOvVjyXNmzi1m+TDplyBqIDrvbCDxnqJ7fbD",
  "A8xABCAhBM0GEe7KGyZmG9BUR+tJZKhlb0wQgq2UkAHkn22Xs8K0ujDTvgAbwx+Q1U8k2OGO30dw4aqg6lK9/wB5",
  "BgBBFUHYF+WhIM9hVLS1jJFWmUCZmkdVsArr",
  "E3aOHw5kJ8uENI1eZS7Tpj6mq2e/uCHOuIHBw7ErxP1K0jkv33uq4stR7z7G9lnv",
  "BIylNAorOE5hSOulUs6Ecj5fddKvh1t4ie7hnuk1sB4BzpwX3npm",
  "JmMgNkERSJ+AU/3EYX11Ytr7bfaablwodf+nkWjQmrQbyVR05C52+cxk/L+q/+Xp",
  "AKs2HcchM8BURWpcVjuPXM00X9TBdE5kdIUGfadcidGNjws0k1/Bmj9IpP20xPh4xVWmxdKJxefH63Bg+ltM+0RF",
  "ESr6EnEqNHA1OehEPTX+SgYXVmWJZSJ4fItbfviyiFQ7nPzit84owxnLxbJQ02kv6q1T7RNL7g8p83T6",
  "EHiLIT3BM4ciShlmUeIZn4X9pA1ezd1P31/W4cMG/xjf",
  "CQ58CaIiIWdmKGmsMrSaOZHUQ1enRD1PYd2TZN+NZqi8fgnvm82Xq3e7xbYhxwT/zXul04Q03tyj6qNW",
  "AcQaCgqlEF3wHVYgIGtoIH7kNKXERJEWUqy6cqzidVPmijz3jcu+oH2PpRAWwZ5V3dnS4FrX7K0V",
  "CqDqN5N5RJElY07pcWJNjoNWmo3QpTNWpscFptnSs5DmxsRC2Jxn3pLM620W9fw4+65m",
  "EI1DGAUkH1jmJ9YFQnDBUTShWZtcZRYqbTS5hYY+il3SuDlyzkRm1nO980ro",
  "AcAVCGhKFOLPG20cKZGyLSwLLihmM9i6ORStQO79T/lSXImbXOWaZJZIZ6AjaToecYFtid/tmKThn7CFszyjvVby7UA5+Zak",
  "F76KINxxP3NGSlM7UJl3Wr1Xa983dnLUeIP9rMLftZlV1hmQ3NSH4lt+5HXC7ieP/lZn",
  "Bj1tDASeE4MOFJh0KSnBPcz2SQtwSjHMUIMvVghZWvwJa3acczw1nl7vn55juStlw6Xkyepj0BXA0a2D2NLj4dts/6l+/+2D",
  "BN3GRRcIY9f0ZSGsZx+6an9XcSDomulYyiXszmLY4rJ5+DNz+Mma",
  "FFR6KvWNOTLERJSXRRWiYCa3YPWJaWe6cvJefrbYhqbpoJX1szhqu8VkwwaF0oLM8MYf9Pl5/V6K",
  "Oa6uPbbPUWTGW4QAXkjoYXlKYlzba85Rcm8rpUu8x/1r0QIZ1BOQ3qsy8N+p",
  "F9yZIrQ9Iu0TNe+DPVorVu+OWiODY5h4ZYCWaz2EeuZpfIc4hIqei5sRmpcinRgVo5YWsmEFv2vuwZzFx3o41AJn4Onv4hcT+YBX/ch5",
  "EUsnEqSIJNJBKMgRNA8IRRr6TIn1T5fIUegFVkn9V98eXP4AZGfIdLhOhqjPn8jrpsVIxhiT9K5N9NE++a8K",
  "GZ8nKUYbXFTpabrJh5jMnYSDsruKtmF8uBCRxFQ2x0LryCid31Mw6Gt0",
  "BnajIBuwIpg9Rn6xUbMrWDGlehlfit1Ixc68",
  "CLCRLAXSMlnVNqRfOQWPRSAnWtWgYarWZToSajmUeZeDgOswg6IXjtKGoHA8p2NTqP0Rrhp1yJTiyw3VzPmo5Pm98+FD+LiR+OIA",
  "BJOWJSLsauS6gy25lTfkpAX0sdh9tyvZwm7I2j057i5f9EJT",
  "BfLyFsVdJ8CkOccUPWkDRR+VSGuqiEbBiWEQnfuQudeC0so83sOY6JMn",
  "D7qzFGZkIEuJKPfLMOYDSgMsWjvpZUb2jNHYjwQSmCRFu+HH4sqs9llK",
  "H22fLqGyM/esN/8sYoLsY4Zya/JpddIKjUcrn+FRoERTs8QQ2bIy3kig/pmW",
  "DjUOGBMvGnwEIGVfIZ8rJ5OqMx0AOZhikWgrnEe/nnrPsTWFxLsDxQlM5wWX6Tje/+VE",
  "Bo8JNJV+O1+GQOojWB7dX9QcZdWrbUYFfVhsjX5blJ+50rvF036x4npm4smg+X2Z+lqn//lv",
  "E1/8FUvRFjXmGSEDG4vMMk9aRbhDS3hRVmTkWi5dXkxeXvaTZRB6aZxzbVInjZohnSEttMKEtS9SuClXx9WWzTjl2UFd7+Z58/L8",
  "DngxEQFlIT0cJ5GITYzoVKq7dpJLd//ckatFl/iFpAy52lWf3hvI44nu56bL56bZ8Ech8yvi+Cux+qB1/xg6",
  "AhTnCDooCQ3XKATTLOZCQ/FNWb6kZQihfF2qfdLIghlUnkPRq3cWsBtSyC43yTrK2bmM272H7nqh8ep5+LCP",
  "JDbSMpWhNKUfaYL9bLs4gGIJoBl/rK5ZxtFZxwiM0Fp+2HRT/ezQ",
  "BsjrBzOMGWIkK3HpPejXPiNgXpN9Yau0Y57YZl5AZvrlfWS1fybVf4efj1xMmo0rn/m3oz4w8LQ+",
  "B20eLPOaMElrQnAcQywzR7LDYvK8dguqfNSxh1ibiG+ckYCRmsvcqSlYvAhKx2EtyrbI3fts6Ydx78sr",
  "AhTjAlcvHpxGM9gVNdWfN9jQRL2ORUxnT/itYsltZ59+kBNrkQ4+m7W9oLAww4emyjOV5yb88d0y9mcY+ZSz+nMN",
  "C6NoRjqFS+sgTsocVn1KWryyczpwfG+mf2/zgxUSjpa/kD6xnTmTsRizwfdCy4we2FT62VnD4lrZ7ibq+FRm+nCY",
  "C/y2DaWrDkr3Dt7YIlO7NN7kNrgvQl8pSjEnT7IfhqaCjgPtl+0dn52+xiMzzEh34drH578//zCg",
  "CSY9GyMOOlmCUoPlaSsmcjwnfKlhmnd8y/OH1VTD1ikz5Z6c5wQM6DvV",
  "CBpCF6XuJe0XLVGEQ2nRSeg1cGp0lO94mEQfmwNRow3ZsKc2wuzl1Mbj1tVV2Iy58MV69w/q",
  "Cm4PIKs/KScfLZLWMP1SMslKOoybO6KXQFJ/TInlT7jFUF0jYNvPY2ItZSxogeolg77ZyWcp0+hq8/G+",
  "PN72oMwetiyjv/Cvw9tmxt/l6Y0O79CS9Gmo",
  "DAwUFyGAM/B7OrnvTHZaWE+pWVKRXP1bYuHTbtCouWnFvklQzHff0dR66qSo9Fzk+EPB+otz",
  "AoFjB6hgDXU8FV7pHPG/K+ymMK5gRJQxTuu7T4PgVpWwV4OoWx4iaBNGfG8Cl0yZuA/sy01y71BC86ml+rEf/9FY",
  "AP3nCmD7EyP1OhPWO7TISkmNSwKwWDEAXLk1XY9maUz5gXOZiTMhjadN1Phb8HVg8TR0/0kG",
  "KF4AKne4Lz3MOTRmWWHBWtGfWtT7Xf0SeglUfM0CvHToxDviyF8D2ShS2dFJ4UQD7a6p",
  "ASrQBc0AB8jwKdVGS8fKTh8SbTuSpi23qIc4vamSv9jCwx5GxIV81zUe67Ah",
  "BESPBZnDC1FgFJsZIDiyNEX/NTqFQGrlXIRqXroqd8QwljAbl3x6mkYLyBUs2jCA3sLz50/w7a2O+XIZ",
  "Ik8nP3HiXAEGcJOLdYcfd3xvgKP1jNEzkHuMmcLYr+KaxUnI2FtI",
  "E/85KrSZMC5oNAjhRCS9TcZtTy/7Xt6mX39qcj0Vi6K8kuqYpRmmr31nu/i2w7hy",
  "AMyCEFEeTpW+UpKDWpHnZiX7bFGqkAW/qa8TsULrtXv9uRFsun+Vx0gizxQbz9am655H/CCT",
  "Bo5kGkTkIf2SOS/OSmHzVjpFX9N3ZdUGd4IDe2VKhD17psQ8p+ZixeZ95CeU6EyN+Xz0",
  "ESS9JLiEK0aKS6FmZVHTfo09jZl8riYltuzcwJPXxIA+02fl07m+2Wpw6APY8/JX+PnB/CZE",
  "DneMNflYaHqLdXXDzoNo0T1Y2lT643fK9XP2+TdH",
  "CVMNIXtLKXBGTD2hUWGvZQf8beR9fF0FgNAxhP/wml5xu7Av3ttZ48+f5Pn8+K/q/bvA",
  "PkOxR+zQTx5MeblzgqR1guR7iOhzpt+hqvsyrKVisXWWvC1TzWg25zbO7KvL",
  "AKtUBFmoBzLnDnjIErWKFaxeFwqNNSxOSoIwXvcMZp4KZvpAhfYMiqgWjTDPlGexlghzmKFcn/kSz6zW03xQ1nK362vM9yjA+ltq",
  "BBIUEF+RE0QmLF0JN2BPOE2wQm93Uqrpbwvqf3ZvhHNtiG73kwNrlKoqqP8Drb0YuZViwJzV9dQ4/xfx",
  "BqbKC+5AF6alGcTwInCwWJw0Ze1sZjzvZ57Zb/qWdfhmmwPZoK+LuBoVwVjnwzbD+ZVa",
  "MbgZUrPVVUWvWEKVWrwNYl9aZWo5lqpJl+AfnTju2lIq9Aq9+RIn+m/z",
  "ElGyNSo9ZuUUb48jl0hYmZ47q6E0vW4m0DH50eW70ftr576a6Uqp",
  "AG53CutaGhTDG1qZI06vJYIiKwgySaq+UbLeUozUZSBifHVrgl+Ehf/IwGtC1VQe6w9664gX7PCa+MhQ+rE7",
  "BUEhF3KKGvriMxm9Um1tc9RMef+qfj0Tj88nl/4YmOzonnNpxGxxyMko0ypf1pSa59wI6ezP8MTV",
  "DsW/IbkxIxJjMv+wM1MHNU4RPe5VVrmxW2D5ZxKmdzIXk6A7semluOO/w+k+zuer5W+W8Wlj",
  "I+srKuZOWKNQaOcpeS86enR0euUfmn50p0bGwKwMwOlJ",
  "Br8wLQJFNMNePQCuQx8fU3tkVZSdYuEuaHR2nj7ow59n1ceQ8h44+FQY+a3A+mn++orO",
  "FlGEJhwqUx1oVpULeZnelMt3nVFUqHRKrE71rHyws3oluA+UwVGFzJIh0S/h0jWY9CMj",
  "HwGFNbijQflkWDBbehgVkxIHloDfm9K2xJsW2VWR59cA6OmW/0hh/37F",
  "BEtDP+xQUMu9WtRWZTjIfI3RhYwNkf4QoRE1uHK12Set3uTK4be36OR37Hja8N7E+OC2",
  "CnHxCwkDGVfzJmpiMmDpOsKRO5czZn73cAacn3OuxnWo2KC22KR65Mgu6DmF/g6Y",
  "JI4sMH7yUoMzZysMZ9YqdgUomr1S1DnS4Acm",
  "Ab6MEoCBLO3kMK3PNnAigC6yyUp10q3H2Fqj5pPI75+3+rOB",
  "BteWGbaNI+gVNAg8UIiIYvmUgYzHlCgcnldOqEylqel6vLTjv+J74fom5Uec/6qe",
  "CgkEGJ2KICeVQwz5RRtXUbYpVq1xeqQufaZJmW5qm2KxnWm6t4gQuFkCudZKue1vz1Mf3dda6m8J/ZrD",
  "BdPpDJtUFyByGVEvHd9tLmgHSmFOUIgsX9LSh54msGsat2ndyQ4y03gC5+9m7OK47l7n78tq",
  "DmBLFjScVsg3ZAd2aZspbQN/drhWjjzfp+pat+it0Cha0gRL0wA62UAT22Z1/t2U",
  "AeiFGlCvJHx7K9cDS1vccVM4gKDXnz4KoIUgujCJvEWVzLrr2Lzg2ueu+Bhc+YN8",
  "AbFNCoJKMZMbNGp5NOKaQIKmXFw1ZqbNdjmmeeJpgEGNml3MnkKHrdm1vyPGy1tJzA5h5q0B",
  "DREUOtHMa9Kbblq5mdqZwM8DytES2HMJ2zfR4L7T4pYf+Pn5",
  "BzJCCADuDz2VD8faK8vXLolVPFO7YxH6aZESiDmxi12Gnm+0s3xiuCDHwNP8wuLT186l568V/GtZ",
  "CpxOFgfLKWPWMEghM51vOBJkOISMQm7SUqpEVsXXWQEubP5ecDIngG7IiG5SjLxon4QsoK8Kpoe1q4HOsYfZugXVx1/jyS8+0/Bb",
  "KCx8Snm0TgpqUqBnZNesZ540hFJdm9mFoK7m7L5l/IoM",
  "BmVmO4CzUN1gc4XQePPSkbFLnZCtpmcJqIOO12512Vh54KHY+aER+m9O",
  "BAvXBUbtEMDZHIfuJPjaNKsCNSmYP9fWZvD0fRj3lAxlm1R8p4gU1NEn2K8s5SqZ7Ytm7w8+8qbB9Hnq",
  "AS+GC7mHDC3SF07DGw7lGyHEJ0ZHK6jXMauBNILfQm76YyIhfdp1mnYytyP/1VN57Pfn+1Fg",
  "Emd1HJQrKe7YKuoIOrOpSebrTUGiawzAelvfihh/mCl6pPi2ur4k2Itv28Wa8MQw8/2B9aS8/U0h/eyr",
  "CIBaCfbJF3zNJJ5HN22TOjewO6FNWJm/Xw7NX2y1aNfDbqjPcVhBfuz2tDs4trcnw5WP0LGj9q+I",
  "C2DIC4NcG7WEM7XVTvLSUUw2UsKqfokPgruwogU0uYQXweZP",
  "B4KODKMDD74tGp7TMHuONHcaQD8xRAB1TOsQX62JZcbld2Jglttxs86PyxuKzdN0z1j195Wg+a0b/VOM",
  "AFbgF41VUt8WVZS3Z9c2bXjke6pigMi+nS/Jru8f2F9E31VX4JUw4c+D9CJ+",
  "Co8wDwPLENUeGJBTOR5PTPm7XIE/hdg0qL6Ww2svxJpx4iLa/CtR",
  "ANVjFIDzP6+0QZdEWtOxZTgjb2m4fI0sjl0tlV9FoHMQvq72yy8xztxe0N9F4W6w8O9i+OAR",
  "ASCfDybZETtJEUVRJsjAL5yrPQKYSEgoa6tscyysfQ47llEaoCoTv/bNxIQyxZJV0/C23ohN",
  "I9G1JNUIKiXkXyczYVtWY85aZcAaZypnbEL4cSayelBBj+zclg7gyhyz4AaB6j4J+hJ+",
  "A8I8Dud6D6MLMJCgNp1uQTHNQTS3dA4wd0+migyAjM/pjbIamcGOn6YGzXJh6rgN",
  "BtbxBvHnDDpqELTMFcmzFv6zPiCiQWqtb88vm2BOw7co29384LVV7HZb/Cl8",
  "AG9GI0dVNtUlPRCWPrBmWW+vWai7XJFEiwM/nWkVpEd7rm6yvJfewzdv1BVO1nlu4K2W7vCY8f899Drk+DLD",
  "NdBkNi3APfrSTRcGUEUhYJ9rZ+Tvf4qUgjPT1T581uKV4Zp15+7B78rF+spt",
  "Auk/DS5SFCsPH6enIIzLZLHtZVCJbnEHe0MZfKWSfb9ajNzKnJVxn0oNoIt22uEB4YcW+Ph3",
  "BE/nGbaCInpLNAM+U94wWHZ7ZtEIj8ceq9UgvmXv2zZR76a/",
  "B/0xDGyLIEL0L4QtMJnpNJuqUVhlZ0LNtMQJ0T5l4B7n5poU7863",
  "IyMnMU2RSJ0JTd8jTsjhWNSAYITZZMtOZ8iDcrP+e5asmop1n75stjiFxEySxWmay6fe01gT73ZZ/nGJ",
  "B7NaCABJITp6I8BbRNPzSZyKXmOjYxFVcGo4j3+EmUeFnm8PweGjxpdN2mr+4IsI5zCw",
  "G89RTy45XKmqZu4AbKlCiG2tjoohmrywnYF7nnQ2oLcvpiY0ugUwxZiA08cH1F8Y2mCf78bA9FNK",
  "C/LMEL1OHR3YIYMPLepAL56fOJqsTOBdT1KkUF2HZ/1VaekcbgxWh1jvodvLrfXtuaVmw5ef3VAa3VSe6Acn9kq3/LuT",
  "AB0FBBT9DobzE9zPLQ9zRcNgRxCiZWjvbF9rdtAXeztwfL34fRfMjrI6l97VoDKZwB/61x2T2BIQ2VfU4v9w+RDd+m6p/YBF",
  "FkYQNSjzWbWJa9w4wecAxcMh69KP69+j9xYA+Lc9/NQe",
  "Cex5F04eMarcUDL/Z26zaKUmcrZudemIg4VinLTMqut+tuZDt7Yax65lzMib1VLU4DdN4ecI6DaY7z4V9Ww1",
  "G7/gIOl7LwJcTUD9a5JhfR8rjjRZqrJ3smYSuffdzw+Y1gr12IrK6euF",
  "HDsYJhF3KnZLTsdxURvhYym7Zd2CpigWqI3kuabS6waA/9rF",
  "Bd5tHiooIpu/RP81T5SqVdjNaCWzgIaJhnCxi6I1lduTtukQ1k+k+pcW",
  "DKJeD5fmNHZ1QD6MUHXtUnjwXulOZ3Urac/IguUkjKmAlcj+tASDv/ncxsQs4OXh+Gss+0Wa",
  "AdGnA3NiFCfGGrNtMdmCReeHU6d4X34jl2cNwGfnz6Sgz/UR2fJM+O9V+S1t/w27",
  "HLTIMXcdPk2zS4dWVRbsY8tKaMBdbwezfqO3f+Mcj3SMkptgn+48r/Kns3JSxJnMxXmOzETN58547VbD9MeH",
  "AsuzF2aEKqJHMcNCNJqgPU5OQmOXQti+c6AFde70uV7azz4c5Isy66D/+XsF",
  "GibyLQQlPQHzTVljT5XgWhrBbB8Yb1/3iyJ0lB3olSk7y9iqy/eXz0q50UGH2KMw25JP7g+t9BVC",
  "AWHJB+QmFDg8F8f4G8e+Lh5iMbTGNlsAQvR3RpygUEvmVY/QYv5AaO+EcijudP7rd2U8gpDKk6BatFL5xY055uMd",
  "ALoxB7nTDjfMFAnTJP0oLRPdLycbMtp2M82WRcbPmcDpszFG08jE10YV10888ctQ+e0Y",
  "DLrEEMpVGVc2Gi3vQefIT4oCUIc+bfU1bucXdTFGmneGqAqhrKmTrdIwysNI0TdA0r/t0y7I3mQy/6lU",
  "AG6hCCtsD5K/HYsjIXg8Rc+WSlW8TlF0ZIQDk8XclI4uldc4mel0o0zosLPGtXaVuEGLyUsc2IaT4Kzx4nKz7ilk+h63/yYh",
  "EeIeGxiVR4c4TpGDb6sUvVlh0IST18Ja7dKU78og",
  "F37qNlJTSWV2TSxhZUPMfUmqgolllBowljNjneHnn0lo1DU31SU/4YZx5lXx6Ypm6uht/txK",
  "AsSEB5X7B/EVDC+mHIcvL9WBQh+eSEPdUuVLXUc6YoPdbCZJfij5iBEJqgNercrqsdp8xiuFyls02LuW3cST6Lhx",
  "CoYIJwMWLnm6NGkvRhM3T07wXz70YaYpYhiCZQbbdvtEeQ14eeEfflpuh2faqinbsbWcspmcuMF2wlJmxpCixx8ayGR21BYB2dWk2mkF8Dtv+njF",
  "DHQ9H94VLpnuM+X8XqOOZlTyatjba9FRdMuMd6LrhgXpmQqNmdlPw3nVyxqn1F3r",
  "DGFVDNMqENRXGP/PIFzPaPUoaV0DepFujjxKlIA7mo/soYjfreor3IMq34Np/8G6",
  "AIcHDO+aE9rKJFezM5wlPnjXXKkFo2VOq4Nqs0NLuBQQxl78zRkV4MVX+jcd",
  "Qn3hRTnxToBWUjBCZ/ywdxuNhGcjlzNRsDhXuCaq2I3O2x8Q7er6+aFr",
  "DTCxFue9F5dQM2LzT8raXDgkZWhKeGntfL1TgqHLh+vwit1lllt7nJaGn2HOpVD5pt0S4Z7X5HKJ+QiD+RA4/vSw",
  "CTB/DEaPF9nYHIakOWugRBkgT8asV8QEfRetg7m0jqGCoStPtMeovTsw1xyY3OWP3rh05wws",
  "ByzgCBTyILBQM2/5NIGVRzhyTDN8XfeSZSkkbh9+kNEAtppUu9Irxch2you+4Dao4ggG+GV1",
  "EReUHJLhLXQiQB9GTI6sT3zVVRCJZjq2dxuvita4jQAQqPu/rGA8smVt2Hxl2IC3",
  "AtEuUUqzYs8yvtf/zhaM+rHm",
  "AJ9tCO0GCodeCwGPGM0MHRAvM7SLNAMlR1KwXKIkXMFrZcqHZ+YoaNVXenQ9hFyhh6mRkWKvmCFTo8TXqy1msLh9tadhxlGny2bB",
  "CASnEELoKdpuNHXQOhMjRIEMUHVIUnhLXRacaBUWpDxVqw0isPJBuooQ7gNg",
  "Dp60MgxVSg2dXZBqX31+iZBin3o0qklgslc6vEmtwywtyOzY31QN4bc9/P5V",
  "Cx5JH+qoJJfdRBduZP19Zl0nxJknzfdH0/qM2RPr3tDa",
  "As3JOcMDhoK6nlUooHHGpv5Bq9Gmu8cNv1NIwuJW0f0q1MsK4E8O4J+6/F0w",
  "A0s3CpJiC41jE4qrIkzuPQFOXELDa6oidv/niCrfkNhilB1Dn+6TpSeNswe0wgNNx9k8z+/l3N0K3ocD4lD77NAP",
  "HYuhH6uqI7S8MhZnPipFQnRcZQphjAsOrI+ju2aKx1YJ3dQd",
  "BYbZJqSENuX3PNjOTmm9XNnRZeLta/2ZbK9Lceo+kjsyn6S8pUXaxfRk1MP29Ioe9RUj+Yrb+zTO/8g7",
  "GVaRONGNUI2uVv26at7nh7e6kcbNuyxjyKKuzL9m2skO5ZBt84qf9rmB+FgD",
  "DmnnDrcaFIyrFvNXLC1MO5E+RoW5SRSFVf5VWBVJWIh9jHIaoh3usE0EwKuMxZUgxaqN4nIO+DF5/mNk",
  "FQIUNNqEN5asPGaJZRXjZ12dcdt3d8pzg33ojHxBxuch101k41jQ5Nlw78l7+L3R",
  "BOrCCoiwEDJjFks9Gtt3MHf/QG2yWERJaSsqkWQRkvZRmXiroIos1Scb6BKS+VVF/Uc5",
  "Bec9B0nzC1/FIGnaK1PdP7vsQjvGSEd7lpO3oAb5tkhGvMOcyQm/2Lrx3p9p4/lp/vrW",
  "BDWkOl/4Whe6ZSLHaDoJapDLhq2PjeFNley+tMK/w79czMRS0fzw2h6k6bi+6lWh8Y1l8wNI",
  "Np9wQ/R8alWwatg2a846bEYYgggFiip2muI+n70iy6aU0wfI19K4",
  "AzI5DNKFDvWLKogcMHGvUKYUYN9fYrnqZuQIay2Lc+kEl7/QmyP4nlagsl/Oywq/zdau/8EV",
  "AHKSBexIGkd7L5P1MV0DUux7XV+RrX28uQ2J038H3VEJ88XB+jZ4/z3i",
  "BJVVBrTEFdicHKQnHnxmMvgZTGwkT68Qb2UscPPSlzKsoPzwx7Fn2R0u216033NE7a0G9ZDP/maK",
  "AmUvF5arPXUwRynBXDd/aR5jgqEmnYmWoKKSqQ60rWkgwXO/1Ez4+cvR/vQL",
  "Bs08IP26K8oMNFuRP0WKTpGrW/VMbaiDtMPcvR4EyAoI1aeJ3lOu5Ez85wuH/5vt",
  "FDkkIxowMXn0NIDwSB4+SRxVWLbWWjAgZTstkAYQpUCVpjI4tRqEtpmvxDCB2FAk5xNE7QD5",
  "M/29NvtXOGk8dcZBm9tln9WIsmTIugAu1p4v61bJ98zn",
  "CtNGDOrrPbz4Qop+QwgESjpiXO9Lcujeeqkvf5yxkVximqetsrZGzAfd9fD3/9l7",
  "AJ7IEf7FH2nwKhZZK6NfM7PmT+CCYwrBkL0No30PphxstGSzvQ2jxdtZzl5l0ByT1ETQ9fFT+k7e",
  "CRYiMqLbPpZAS8bxUJP3UnemYq2fdglbfXkvidfSm8zanRVktVxOt6SvvaVNy2fv1Rg01V0e2TWU3/Oy7gK7",
  "C9iHDha5EPiTF3XEJKc8LrEeOZK7Ptu4QF+ySgz4U1i6XhC/YZshgrmMmptmn3mPpnO7vEkIxr7wycWP1Qi+1XGJ4baY55sQ5/Zb+ffT/wxx",
  "Jw1wYHpQgRlVlKC/mlNNmsSEs5r/wFbp0RuU54d+",
  "AbesAs0kAw6ULEMvNJlWRZioTN6OWftsWkiGi78Os+N7tMK6uANJuC3G1rEm2GiK9BFc9vvD",
  "DcFVIZ0NMX0TSH5KT5SWUDj0XYrkdd6neDjPe2q8okjA21Ex",
  "EFDQGa06HVXkH0x4MD2iM7L5NZ4lScwMVqOmYubzeAUMkXTIlS8umsAToKfvxVFi1OKK1mdP3oLH4uoP8pVl",
  "AJZeALcuBYY0JE5IM8xMNjy8RLdAS7kFWS5iXNksYr2kZIWrZ1Ywe1JufXXdi74Fpqdnr7X9uX6Ywfo1wvlny4GA+mdE",
  "AKOBAhLEBkiUDMzCEI0EEungQcs5VnGBX+qWfMuuhBVQi5z4jdAekq7tkx5clUMUmdjTm4hkofRCqQrEqTATxjlx2Af37hsh8abV8q6P",
  "Ab4IElRvFSmwGjdtI0YnK0WpMFckN7RfPEapSiVeUUB1kHqel6Pin5H1oOYVxWjF32vO3+ot4c7+/mK//yTX",
  "CRp0bd9vdQNHfKjTmmuzpdNFrGyashVoxQ6+yDrU0b2a3uib",
  "FuN1H98XJLCVRjZZWgZkao0ifR9JqGMJxGFNxykM",
  "FFymNARmWL8papQGhQeGrZDKx5oZ1Aci1tYa3K2W3p7E",
  "FtRKIG6/K/Q0LHijL/S4MGQDSrgXStqWUpZUX8eMb63BnTGBoWfrpVDRqffutNXFu4Ltxo9Y5RnE5oRJ9K6P",
  "E/WhGBUCKpBqM+SyOKeITBhgTwvMateRbq5cgL3sgrlZo5m9pPV3phzbqTeCt/FFvGCGvgRJw1d3xqeJxq0S0lDa065Y8xOg9KHf+aKc+h7V",
  "Dj6IEZ9cL5omPscMQ5hGQ9hbUKVvl78rmfZIr5ZVtovxuAQjxuYw1gjD7jOH85u1",
  "DVS3DyRZSj3EUxKtbmN8kIrulfOWzZcBzqwb8DfN",
  "DjSbEQCOJ4oCNmYtORnhX0AiZS2kdpZxfmkOiEJSi0+LlzIHq6QNtmxJtsitwvHWzH+KzqtM0iHm5Drq5vbD59+p7axh+NWS/kDU",
  "C7xNDvH7IrP/LI2NLgBQQ2saUPtNWOLrXDbaYIrigvokj71hmv9wnz6ooKHtrD8osOuFxty9yBnF+RMY+TIh",
  "E8eXGOgqGc0LG7InJU5TQF8cRBfWU/clWhwwYnUNcxIVh+h7lWJvli4bl/5wmD+LmjpCnJxDqaferslkx2/ly9sd1IHA3rcq5wri/R0V",
  "CtBULpycT+tRWl3/W/U9ZTqIbX2gelIagsBMsGBRsZnJtfujtpkK0rig4BmE",
  "C3HrDBPoFY+VKM8/Mu5+N+YAPicfPvZPQVVPXuBQaPi9eUrEh9tQm9rAn9TjsicBsmQj0pFi2xRq5+2z5/Dl7cOj8FZU+bsC+5bf",
  "Cyd5D5yOE8yNHGJJJfhFJj1NPS+5Ry2/Uoa6Xd1Za2PgdQnMeEesjeeanqyLvtET2DjD2tiU85TV9bAJ9ccP94uT",
  "AMjbBoKbHxdaIQV/IovAKEmfOqB+Zck9aGuehwl1l/yBp03EtaYXuF104xWq",
  "CRV9KW/pRHoTTJK9UncBVSGAZiYwfKb+gp/mmmxsnBlEnRS/npECnx7lr6c5sqvfuiwvwYws6pWq70jL8t2A+O34/wwG",
  "CfHBNIvXNWucRBY1R+4OVDJuYCwncLUhjWifmfOTvEhjvgQJxJIZ2kkx3yuI55pr6XcD9OL/+Z4h",
  "HbCqXVRuZPwzaQxxbDXUfFE8ibNni7m9neuruF/s0KiG3s+Q4N4c/rlt",
  "DT0LKUDxMMbgOmRpWkfhY2/oZVCdaXEhbl6Vbtqedt8Lecc8fVjprJmZv3bPxEhC4dTe4jdh5Lfk7HWh",
  "DcCwHAGcdd4Cf7e9kaCimKFgn+1JrzSjr1rlwgIDzTTSzsN8zvoQ5jX2+Paf+218",
  "I/P/O+2wQMzFQqI/VuyzV0ZHWrDva32gbHzMelBFe12mkXQjngvKtmSe8pTA9kOJ",
  "BEoYBYWPBpsBGOQoYrz/ZeGjlh7Fm7Uxrx5mw3s45uL3+YmR+maf",
  "GN+jGnGJQ92bVnDcZL/UZ5o7aL+DjL84jaYZjp0bj184kx23nS0lwMLiyb9R2U1V8/709GUa97tz",
  "AHboGmezIA5oINQOROZASG7FWKZBfIUWgqrBkTtSmeyQqMn8q2Vux1Jm0pPD57LR/mIa/yQy",
  "CRnPFLP4GynCKwuKOk0UP6KLTnA9ZRSZcWnNfGmii2i7jMMpzti910wa27YU4pt96MBI+LyH+n4Q",
  "CuTUOQ4GP9oESoVsZg0BmFDInvOjqPCgr/Siv0dq0tYF2IBL3kbB87Jd",
  "GUZlINBwZwbdcNuBcf2xmpkjoAWvopP5rB7qxwvTy9AH0u5a3xq5",
  "ChknC0LIH2Q5N3IiSGEZXVvrgpz+lV7WpVAsrqpvy1gQy+B8y+L24QVx7YuT8Ywb",
  "BpK+BrNnDoUPEnkZHT+xLSt+M+QNNneLYtVlaPsofqNLmVdsx5pi1MHS8tcs84rN+n8F",
  "AFANER+fLH/eVolCbup6iHf0jw9Klnnpl76GnUWLvoNMxv3E6kra7jLi",
  "APM9D9FPKyomPaRhSj0fWOi1YTzmbnpjh3n3lhBJqcVVu7YAvypz0kmZ4Dhn5GfH58s3/hSY/zyY",
  "CTI1DjwcKyA9S3EWT63GY+NHbCN7fV1em3iSqPhBtKBrwjO+zzS82Rvk4sf46ZYc7au8",
  "E/L7L4RRXDY1Xmg1e4e1iF3IryhUvCFmwf7+2Jix6X3Q/Ear",
  "EaRlJTvkNfMaQF53TGWSdpXxdz60h15jmjmdyAi+5wo99YDJ",
  "EgUiHPWCV3cTW/SYax4BiqA5yWplyqzj2E7a2IH12Ipn4Jqk+SRe",
  "B1lXD6OrGzYcILGAJFXjM/xzOILBYdgNYu3Lgzq8nkuFrqOvszNazHno94F5",
  "AMAUCybUHGGkJvYoNmXmPMFZSciFVkBoVqGoWb+DZLC8ZT8Ha2M7tRHfueGmu8vkvjKN5hfK",
  "GUVmIQTaLzHyNJp7NTbEN2sCPsBjP/c9SlWFTHxNWXQlgX+RzNyOz+425q0i5+s9/hBv/sNn",
  "A1YYHwQBIc2aO1yEO4YrWx/4qXrErNJ/zQJP2TRK7UkE/vwt",
  "BQYQBRpEB/n8F6zeH824MLNkMyejQF5oS0xbWXDsYCuCmKtntS56vEe+vlGt5YvF8B2r",
  "BFCHDAmjFyqUJk18NObsOos8OvtDPyF0QHbdTA9kTRkxefPAi8BmmlIDpJBkphT5rPC03s7r8cNN+giC",
  "CEKuFNwrR/PKdz10mc7QrJj0wiEix53xzpoJ0vYN2GdA",
  "CgbiDcALJLCNM7nJN7jqVj2SWyUpW+/CXuqeeInPfCe+fukQrzP+3s4e+PX6/Pvb",
  "EJWWIcWEJIYMLBCxMDxYMq/7TotvUp57VroOXSoaY+oZpr9IwZmfxTOOzXoA8pQb",
  "BYTqD/M9L5LKOZagSm3rSr21TUtKV7D7ZeD+bIuSgVJNhQGMn6GDrJhhzbvo5OpA+Yjs",
  "Ces8Cg+iVXCIZV3LbFRHjaV0kx0SmANIokvMxa3ezJlTzk/wznZi8/5P+QW5+4iC",
  "B/0XCA/mCiotEh1oRoJvZT6UmJB9vBPsz06T05VR1J2s3Drb",
  "AIBtFLqdJYU0J1G8K6doPZFpZRP0esOhevT1fGj9jABMmmppyeST2bxN3udR4UMK56oX9GaT+Lvi+xC1",
  "EGhmEV2nPY+XZs8Mfn57lgBQmk96ozojpHcZpy95xGADxyfCyzNt3Aje+IgL/8dY",
  "AkgfGILjNW5LT7zTUaWeXwMEZwY4asBlennKfU0QjTzHkF2JnkaOn/UMoAUKtRoYvUC5yeHh7qH28Y5e",
  "B+hiFq2jJxVuP1pXTlx1UK1VUrbhfJxBfe3tlPw0oSMtpU+HrX4ixjYk2Gjq7hz586M5",
  "BrLCB3bFCjarFbrwMxe6ZVrIexGrmhchnmbZzpgS6UEs+V/s+aFS",
  "AEsXDcFNHb16QBovYt0hl73hnTQGnUTmqELaydcS0uQR3f2X3sFB4Iln9Ba1+R4f",
  "HYQmK/wGPGE8QYsTUWD+YzPDd1yKhIa6kTrVmJRwoN7I0edA4ZW758qS9guo",
  "ILCnIfekJ21JLBH0MfZsUA3vUss3VpvRYG3FZI2+ZSxaaHFebwwIcbdwfIFji0I4oGdHsPhyzFC5z2fX5MRt7asX+NRI",
  "DIoCEJfURnLgYKSSfdbSmc9tnzfLvcvF0yQV3IDD",
  "BkvdB9kCCh5YIB7FKbkDQKPHTZlUWfRcZx6ej0JFlyycsfWdzYvx3/q44rlP7rIk8nly",
  "ESCgEgR9F7HmJKqmSHjaUs9HUwcXYhNxZ6RUfwAlgHuYiJN1iiMlk8GUn5o9p4h3xSqaz8pm1zNT8qh++c/R",
  "BN+NBssoG8gHJTVWKIFWKaQpPAnyUtMVVkE4WgqFYu0mhpaZkRasnkrgr+V/4uLK+bm4/bPt",
  "AvZWD25QD983GDScNve8WIcNa2KWbIUTmZpgm/QUnV1MpIDHtqKvueEB2z8R9C8b/Gkx",
  "CuqAJHW5JrAzNeQkQXMhUDlYUhzxUpr4rIJ5uZlww3Nwxbm40HLw4klw4r5R5+L4/21n",
  "A/DOLCozPBwgSZgoZUTAZUm2azf4bDs8dqvofJnJoA5qtk6LvJW82TOl3ugq5p+z9FzW+Oyu",
  "AEOdBzlHNGd9QBb/SGDxYCrdYpeqbssecj+AfWTihmHQjKRRxN9exQtD2LBy3CQN3wDr4Wt/571w",
  "Ng7eOppxTDlOZVh+ZzcEeuSNkWnDn6k5pW7QqA9Y0qjp3tBF4BMe73Ur9uo7",
  "C8OnDGA/HVqBHXGPQeVcQiPpToR3ZL+Fbl1LdGXZfwJQvLpU0g062Gab4W7O6cdW",
  "BuOOE06QFZneRer2Wsu7YdGaYwWMZ1lPaIQab9l2gltbmxl5nmNGrzNZuNi8vz1sxNHoxjunyku/+PVV/7aW",
  "CBEFCK5zU1h2VrlpfyhFhBzclE76nXWyuflnu3vavAD9wpc322Bt8pN29EeB",
  "Aaz1CEJvGV0nMZW3O3MOSm1GUFG+Yh7Qhx3ZkSATnBJ5o528uge1zPDJ5/te",
  "Rtvnb9K0fFt/f554kxxtqqXRtrQov7BM2UwL+zM5/umM",
  "BO00P2zURvNAY6cbbuOEgUueh8jWlEk1qNnL9iuE",
  "B2l2EehaF0JVHvjVMZ8TNHZxNYZ7PrjCRm+qWdiHWuhKkovjmmnEvVvzzDeu31wS44ma8J0E+PWA+xAQ/lxz",
  "AKDsChobDXbnOQy8OnWLRK51RR0YTTU0T3GxYHFvcIN2ddohe93xfZOauB6wxkCmy7R72H8B5Dce5szz",
  "KrbUMIXkOg7JRnhxTO10XwJfYx3yZR/AacIWkabbk3wrtC7K89ZO/878",
  "D1dsE7q/M6lnO9etPvnNRaKgVtHPaQGab+KgfVL4i7tQpMkCpU7ipuEtrWnb06SV",
  "BqZ1DZyfDaQoHIEaI8rFaqezdOoTe8pkh02WlvqRl2gfmzoupGO8pyDRycHfy+sG1ojJ/DL3",
  "AEpyAxI7BM5/CD7WPjMxRatnY9VSa6OpcTGIc0lAeM5WmcVFpjOTsNNaun40wrIYzxVk2OMH/wHy",
  "G5J4HNYJNWlaPgUKQQjLS4YVTHnGUU9kX67bZtVzd+KmiKZVjuL0xWrp",
  "DJc0F1q7LbGGMbd5NI7XP+cGbWrTe3iVfWvnl3Loqe/GtvaVwwX1xtgs5H9p9lto",
  "ByOJIIcDN4N0QW7BTU2aZm2od/WMigBmmPg7pK8AzTtI2Jdn2sav55EO6IS26KPX",
  "GxCiHQTFKbheMhBvOkfzStWsS8fBXxrFaOO7bhwGdz1qfccwrOehxmxz0tlK5CHY",
  "AFLIAhD2CF1lER/7EgPYJnFUK25wM8HNT6AJUPP/Us6ia60ie40ofQL4p/iIr/nPur+NyBYZ1ISR",
  "DK77HTPTIu3XP8t5UEZgaArBdhUDhzUIiJdbiuGDlRyBmmu9mr+roRYKtD5uzL2U1TdU1U2t5HHt6msq9zoQ+bkT",
  "AEIIAGLYANRFGvdMMzlGRMH7VfMxZlzAZv9Ua2HxciuDdDyohj0aiVfvjRGqmbEinUzvo0Efq2FPvfz1wpTR3rj332FP4KEo6ygC9bm3",
  "ENm+EOKcGAeeIQOQQWDjXZYvXuRJafcnbaCmcZeXePZOfgtohGSBjOS0rbUE2ATK6qaN7cbL8q3/+NUI",
  "AcWTFATPF3MhLEbfMz7ETp+/ZUQbcTS0fJkkgn2cmQbbnsW8nz2furSCvEbb1Clu2YRJ4Xqo80J0+OwJ",
  "B2twF2qqGCkOH92SKE/CQ/TxYCo4a7dkk+nLq/7fu9iRxv7Izf+N0wLx1vhp3pRF4lPT6dOv6lr47gTs",
  "B/DDH1pfN+1bPxgKP3ikVhqOXzMrYu8OZzZfbom0l24conkEsR8rtaTH4BJ5+5LR",
  "MEr3SZ18T1imUwYkb52xfTHJgUEXhcQvmc2GqzvmwBOB0Hbn4WiG8DRa8Dth",
  "Ax2oBIG4BuLpIN3qK7CjTxVzZH2TaOlfepaoetNBfCZ0jfDWm6YbrzK01itf4lz35Ntr+PSw+yPQ",
  "AHs+Fa9lLnEMLyzsNYNaXJ08czSgmpgOnXUNo1mFpCwytYMy005S2RVL4LmO9Ebc+Bg3",
  "BnhCIvdtOii4UFEZW69xZFTgZtXQZ50nZ/Dnb4TDd0oKiNchkeXCo8fF5/q56dGD7d8x/QYL",
  "DIooLVDYWNyuWZtdZVyBbFL9cvPXfLGKfVhqn1YFoJduqPK8tsOAwwf+4ZMO+QRv",
  "BQ5mBy3yB/vNF84PHB72JHOuNy1jUGYobq4+li80ozlEo63rrBIAsawRx/7k3c8L3qyr4GKL",
  "CAkpCZI+DYqkKb+3VvEHaEPgboDgcqoAhzMLjOBFlNcgmHmGmMk0mwtiqM+9qxwRtm77uLbMvOyNvYlG4Crf4HuL9YPh+w9r/TGO",
  "EGbERRxzUBZ8WM5TYAKvYvOIjdMjj3h4mZ8xn8pkorO1x7UNyOhn1oNK2LF36qXm",
  "HGdxJ3y9KUpLLDHuRQ2DYx1NaQHFemt+ep4LgL5ChGgQnnsHpeN7xsvS4KGR",
  "E35AFU/9IYi8I0PwJxQkKAJFMmfrQjVsRPLHSpotUHQ6Vv79XLWigUYChCbDqyGdtNuzuhEovmIPxK+sxdA11OTt5Cpc9F9C9GXv",
  "DrpIIei6Jr6iRTD2UGl/VmBJbELfgOypiZDmmzmJvskDzg2U",
  "BM3aDpLrNG83Q96+SPBWYvp8bFHge0dofnNBjZw7k+q7vJj5vYCQv3JuwIddyfxG30hE+RzV",
  "EriJFILzGVDzHaBRJSndKpEuOptZSRLEU6XsV5Wwg1m5jooomJMmqfP+sbmTvQV21yk15CCG/ne/",
  "IJISMbbURGKBVpyJW1JaazO3b5J+oGX9pOx/sf+EylBrzE9v18Pf4ENF9lrD/NgM/SMK",
  "A1PrDNOvEFpLFHW4IMnxK+QIRp7gSuAxTUz1VGMxjPzQmWvvnEUdn+LKpRR0wFqa2JbC29Jg3ns65moJ7l8L",
  "AQ5tD8q7FrZbJSXMKbe5K48sMm9qM+lLZXoXcfFJlJmav9DYxxA89orR/+a9",
  "A/mJO6+xSRt0ampGa6oLbxhun5jzrhRq4Hgo5FVp6ECn",
  "AXtGDK5WDfeOO8KhUIHlUqD3Wgk7aQcXfQBggzGmkg5xkkWNmXAdmmsYqs2S0FCj",
  "G9EZHostIT6VSmCLT3rHXA27ZlwbdCpSfUr6huSbkER8nUxKoaWepA4ysVLZtWonxvcFz6ac34gz35ko4mZF/xmz",
  "ECaLT6H8WHV8jxkEptsTp6NGq3iPvehKvx3Rxfcqx404",
  "F3J8NKaYUJOJZHfIdr5ngnz3oH5jqdkE1CjJ+qwa",
  "B/HKCXnkPyFbQBW1TWVbZCI5bOEpbYRUge3kjKMHmy3axs9Eyh/szBgf1XjQ2Ib+2K8o26m/7SVB",
  "AmlxB/AeDEJhJ0D3KKgSKMfTKqZ4K7QZR69bTKYYVvv1XnL3XzKGZRb+aPt8gAUviGWmiGyzqRcjterLuLlNuyJ902tE3q00",
  "BrkmGrFQM9mOP8cGT/omXXICY1Z6Z1l9jcNnlNjzmczhn7FZt9yVx/iG0i0w6r0M9Ja7",
  "DMa8QuPVWr4raUcXdRCmdidqoECZqnWIry0BsRosym5q2BU54lxS/7VM",
  "AHqZCPvZC4c1EQncGBanLnKcO6AWTsRpZQcXdlnvm21fo1jgw/Zm4alL+AY8+iqv/zIZ",
  "AmCHI4+2Olr7RAAEYKq+e+I9o/f1pYCqq0Cutt6fy0PAzwnK54Iy7d6M",
  "BK4ICwAdC7RYF4riHJuuJuTpMYv2VgZWWQjugpVdn1Vgp1/XxprByJWt0SmO2vGJ4ZJp/uhC",
  "APGuEPmrFuKiF81qKqt4N4pWOTmvSJCgVAA2eJh7k4U6ltKen0M9oVDKt+9bxz4DzXwvzrM301OX4k5F79Ir8/M3/GFr",
  "BH0wHTG/I1oBK7JKNHUnRwyzWSyFWiRXdcymiN8kq4j8sF7Yv2zCwaCh4RNY+JAa+w7G",
  "HKvsKFrgM/H0RRvOTTRMT3BnUBTFXmYNdbp4gMUrhL4rhQmIoQOPpQK5vAnX",
  "DN8iHyhJMEJmVtx0aQEgmSPZmpvkoIPAtM6utWplteRFv6yQ1kMg4Fxj/82y",
  "AJL/C16rFU9YGejlM6gdTC38UMUDWSl7XLT9cu9gmqnvo3FG2p4j4NFP+kMV",
  "AgFaCjf+DRXwH91DMtxaQ4ZUSOScUwhachpPd0eWgOwEgqMHmqJmmzjkpAw/tjKEvEvg2TlC7YZx7fby",
  "BM01BVVjFQWBOSkJP3dsXSedX1jybYljgq3DkCa7n23GoiN3s7tpteFUujPPvbVq1K/93sVf30ef4arP8Umy/wCo",
  "FIJOF+XQIUo6TXBvZ+libTJMbwMnmkeErEhrxTUpyBalyLDSy/wr3sRs+phI",
  "ESEtKzlFNI2NQY2te00/msQhpZ5Sp1jYvCcSwQDNw/2BxD0eyFQW0jle2CE92Q2y4EKg45kX6lvL62fD8PQg9loe++wq",
  "C2O1EXlBInfrM7qVNs3BOCKBWNBhoHxytXqOutQevMNHx8zOyBCv0alN3nqV7Kol9bso",
  "BsY0B9cTDf2SHBsONHx3OwEeYtsqlJj1t4Qgxmspx0mbySAg",
  "AKtlDZmmDhQ8HOZhLMj5M8CDNOLONOzUTuedXM1jZPl6ZdZ/eOgdfxHphg/wihsUkzMurpQhuD0Pw3AUxjfTzaufzyVC039B1sq82Flp6eTd72UD9H2w+X5t",
  "D09LF2TwUIFAUnDLcVOch8VciFRqiXuVnp8GoOOcrSStxCOZxKSv0cQv3xwm7g9Y8jRJ/xDF",
  "CbwbFHByIT3wShmVSpJzUyx4VfHnal+ykGa/m/Iln4YspA2N1Pto32AF4E9B4cM19Bba9HOD",
  "C73PENxfISDDNqQ/ZQl1fkTficZtiun/jtvPnTcunoGPo05tpXdLpe1lq3fqtqR+vqH4yRGm3tzS57t6+LFj",
  "A2N/HVZPIkVoPdXTW/DUaywSgfAvkvfRoH2+pQ3+4FsG+O7p/UsU/2SO",
  "DnpBE8jSJuYoOQ6oPh7dQ/OnWZk5XZeBYrz5ZMf6ZvY8cWJ8dOfSfa5hjC9SlLgxn/qLsWr0w9vN1UfQ2meG3pL75t7F7UeK8Hj99jqQ/BFS",
  "MLVmNPzeRFrESrdwTibNTnteVmbmVpaKYu3EZRZZgpwdgq9yjmhlomH2qI/ZrP69u9tQ",
  "FOL+HiF5OQIwOcAKO9mqP8ZhSV4eT/mBVcpbXM6zXOXJZ6BSlYhin7C0vInPwyS426ze3RLY6/v8+ZbT",
  "BIBuJccqPqRzTKfPUJmmV1xYWr2GcSWDkAPksRmHt2MAufHpwU4a4lut72Rg8vgy9Yva",
  "FJijHvMrJVD2MOS9N94FSXOAb2iwfSfPgWk1hng5nx8kprROp6zkyeqS0VFh4dub4n4G7ZNX/GCe",
  "BN31CZ6sG2lrHHRNMW+7Tr2qVP1RZSHbe//EfRI8gIRHhVXYhm5vmumHm/fqnJfqnhO62xtl3+0M6nF77ijX+MnJ",
  "C1jLIrTyO/43WQhJcJDyc2Ugdc9OoJYkqlipxG3qyotn4Vr473o0/SwZ",
  "AnLcDGwqOa7dUY4gcMQ9dAaEd0gyfAaBiZomqFypqM9DtCZquEK1vd+Sv6nQyki+1VJN3qth7Pup8Wrc",
  "DDLeK/y5LGgMVLdzWiOyZSxudHnXiorRkERXk99Ctfkyv2wdxCQT1kw83syc7wol",
  "Mf7MRAYGRRspXP4vdbnTn8kaplH2r/+BtRmUw6DgyOcd0fJy",
  "Ii+2QKt8Qn4QWbRfbxEKeiwWepzBfK6rmps/nSUWuBDAuZHI/qKa/80N",
  "BnbSCbQ9C14GHHCAOVaHP5TwWDHUbirblxxv0Wq21X8y9kv/+iGg+kJw/0na",
  "C42vMloEPd9yUUz1WcQFWtXPZJuldKzEgOtfmKHymzg/xecczKwo2Skm",
  "CJNhNeHGOhOcQbEGYMlFbOD4djBbgq0ehInGnwU8vgrhxnch0e8R5XvV/wAD",
  "DUCODjp+Eb1QHvZjv9wb1CCg1yfr6JwZ6LDx/dfk",
  "Bo1sCsClGMDsKEXNKPf6NIzoN9hQOEM/OR+IRIuQTi9WWjwYXgoWZUclk7j7oHP+wTK5zJUr0OKA2Fwc4FHT4Ycx80FX9ll5+gZp",
  "F1cHHRnHR8SMSlyQUjrVYg/fYn+KdK8PddI5fbR3fcMMn+GAxxLW3hAs",
  "DNwwEHoqG8AlTX8EVdO8kWhawlM3x3a8yFln0E7Z0d9N3nhu7Zgt9hVC/+Vz",
  "AKrABo84CC6fJgE6MHIWM7/eX9RLZr3OgCKShSzsmfN3qaEcyLRVzGtw6BPo9CVv+GNq+lrW/Yw5",
  "Dd2tDmTwEDBTEy53QZGORbhyS9LpUW3LVmUTbYlHcdfkfSQjiFPFjDcdnSFctmSywJxS2UGM7g6z8/nY",
  "IT1LI7KgNcXcPAkAShjwZVVxblY0eAALjlAQlnwmn4WHpAzoq3ZivStLw24/xcVw5fkQ56cI/xhp",
  "AOo8CQ4GFHsOHE54WHQyWgzoXrS1Y78Ya/9MjHjWkgKEl6Yaml9FnwjVpdhep2X9q3dFxIXh9g+6",
  "FGFCJZroKcXxNKVOT6yGWRMDW47RfWgxiL5do3lpq7N7r0CHu/03wu+o0tHT2HSC8/3R",
  "AWjvBzO7Dz8OJGxIJ/XgSpbpUB/5UMsLYEutYol3gZx2mo1anFg6pQEMpTLguibovtto232S57CO",
  "BwoBMEmaPupCQnBLSrEBUm/bV/B8WrM6YvLra7tNhIWghbMNj954kYDAmU+1mswLqiLErTpjwFp01DYc7UgH",
  "D398M9hEOS+ZT/jcVc7RVzd4YsmcZ5+tddMZoE2toLBfp86c1CpH2cBe8Y3Z9JVx+nM8",
  "I5uLRQYpVn15WrzhdQ9ci3wNjK/2pT/WqobCsRjitiIl29Qe4lsI7icZ8Pey9aM3+nDH",
  "CkVdFvl9RqXUSjFWXKvnY0Pjab4iek4feobhnTDQn53t2gwC4dr27l938qg689vd/zDP",
  "CSZsHxQ3I3RSKoquOzhVQA3LQiZCY0ddZobLdDwCdQ8/iqKUlZYmmP1Dmner0rW415+u2I6x49Nk7/sH88hn9M2X",
  "A4ZMHdu9NGKkQGZcYtx4Y09chQjqnVThr/y4uJzYyk2M07qD2Fbh4SxS52/Q6Zb28Gyr8MWp9Ss69jK0",
  "B2XLEbWeJBWMLZMFQFKuWf+XYc1KbNgRsBk2sJeBwaSKy/u+zpiH3qq88/Ht+eRT++nJ",
  "BPeMBfMDC8VNHTB1ONDMOmtLOtLdRQnbRgYjRpMlTpmbUDD2ko/nlMkcv2t44bEB9Vhx",
  "BCkLBkFdGPzhM/CqOY7pPBjPWrA4XP2KfbnlhvSrldfWl6FYqPkewHCx+a6U+oui",
  "DRmUOpWJSx4rVJ02VpXfahy/cIFpf3FFhPc+nTFCpTOorLwluBAbwJ6Yxv1a0ogH71Bx82/r",
  "DHQMDcDIFU4OLOchMJMgO2T5Skm8WDEvWeQJeUbg+jxx/i84",
  "BPW2Eg5vHa5sIfhgI+usI/eBWtUqZTmcaj4nbDAYdL9NdSelhTeWjtIQkr7sr4vMsX4kzEE5zNZx7gJU8S778ws4+OGK",
  "BU3pDB30JVm0MwL3XlHWb0r1mauAmgpyrzht0eqd7IT6+ki3",
  "FIEEGgILQGsUTXX4Z+gYcOR1mkY6xpSsx0B+1e2R3sMi",
  "DN9AEEQ3E5xzHw1JKPdVM8CVOKLrRIcDRY3+ZUaAjNFixDvUy1s51Yn541zm8RlM/+73",
  "BhPQBpPnC3kbHJdoHpI9JSS4NAkQVuk3Xt7VY9Hmc/+Hd/tqn+Db2haY3CxT485l7zT/8oPp",
  "H03QNlUQRD1XTb6UUpKyd6HghAPelUijmU9zoq3etSE/un/Eyu1O9EMK/2JB",
  "Bo6TIVmCUbbHX9OmZdU1f8EGiBW7i3Yiw27K4c/Z5Sjp6MaV9v4g+X0j",
  "BobvFMJnFhn5Iv73ZVICZ+rSbY9LjZmrnSC3qDRarEgo0vUL08zw5cXS8/KG+Pnw",
  "CmIDDne7NYgGRisnSS9eUIhXfl6UpIQVqoBG16Al56Zj8G3O",
  "IERtT+nAZQgra8q2cZNBcp+BfF00h2k+iomJlXsDq3agsL9ZzCyK2mLH3tuI42YJ5qbm+LAZ",
  "IGlwKNDKL9fWMwGGWlPZW52jY/d8ZZyHdwVngqSkrKWRxxVVx7Sb6p+Q7hgy",
  "BzMWE829I5STJDWDJF2fJsoSRNVsXenyZvpvden6hQ11klnNk5qGloFUn/lBrZCysDTtv3e49Cnu+luZ+opF",
  "CDuFDdDbKOBaMNruQm+mRqyCUqsYagPAcwWNiG8mmstmoXEwq4wy0Fak0tFy3pQe728a8+Gx9IRC9J2i",
  "AuMABqb5EkaKFB0vSVQsTnXjT/g3Ysj3Ze2bZ58Id1TDoJ3doK+6uHQIuioN32nU5N7t+ZWJ",
  "DsaZEXUsJf0IWrw8aAsMbGDkcSQ5fLVNjbIRllVKl+BOnTkdoDQSvSRCvtyAv5O/166L2VlN3ZI637/04Y6W6LLl9Ars+nAi",
  "BjxSCJfGG8sIHpTmJiemJwyJNSpsYnFOczsai/6VlwEyprgu0DIo577J7Il1/zAq",
  "ATGBCSXHCe3yEEfyHrtdInMAJ2l8J55ZNTSxNkZ6WSkEZSCRbBcNb+Aydoe5fHWamTF3omtPtRXNviSv0+ln1VRN2I4M2ejT4WIC6u8P+Mh//+D8",
  "BeSNKSghQi6CWQb/XSL+a5PajQIujjXSkoZ42IxD8MUE+hvU",
  "EZ/uIblgL2BrNeqvPjuqPxruZxLVcIr1cS4Dcm4QgPKFoXAjpUqhqxBOsc7dt2282slz6Rsb/WWl",
  "E4AzJyFsZ+/NiP+VoXI6qZLaqujn3aKb",
  "Br9fB4NiDmQNJnpmKIZ7R+iqSdk1X1XbYuFdg5hWnj8XsAPCucFNxhd4yT6Z0EiM+ef5+or9/Oya",
  "AproBZYPFFXjGllKN5iFOm5UQ3eJSvHZTgmeVpU6dlycfPMhftPOnVGDtqCy2Jmg5DkT5+k+6Zqx8Fvq8HxQ9CNS",
  "HVnNHdh/NMV7QTOiSkkXWDCKchDrtA+AvTVYxJtF0cvu3AIo5X2n5pjR59cv6OnF/0iQ",
  "KhCzWtSFX1Epb4ishYw8krgkmASTnz2pqU+y2Sfc6oAV9x0Q",
  "MS6/NeB8PgVVUYDTVDmSY2oZY4LsbCFximqxkKVKtlDN2KSp+S5l",
  "BRE/BZlNQGpvUuzeZnbGjtHzmkWVmr2Bq3nM1E1w9wWO+TKn",
  "Aqp+E35HGGteRmVbXACQXhpKZOhRc/PngkLEjbIolODdmcJinA3tp26ap/GevD4/0h2q2FrS4Kac6KwF8dEy",
  "B5vIFkUMJGHbMHLPMmAANAhrPDqqVBUAXt4wYUQ2YvnDY4VXZBLUid9Lnld9pVmXs8L1yY4d25tx/6rN",
  "A/g8DjPzMb8pMcowQwTVQ7OBTBt2Vq2gYwIkgu4ulbErs9MUue2ezz0+4cYI4e8M5YZ4+GWd",
  "DR6KGVFeR7THSmF9T8qgX9MB3paC6zk/9qlo/jpy",
  "IS/eIoYWJARUNbL1P9EIdV1UjTfhmaEWsGto1z8v2UBC/Tmy/t3D",
  "DncWGUafJoAmNTr5THCcVKmgaDMoaIwxjsaHqgoTrIKkwfdfyBJW5K6163/i",
  "A1qRKPcBLzelMZNKNGqoQILVTIKlTPjPWhJBcp7cdSb9ml37uMj8wI9MwSa+xnn03trj65XS7Xvb7cN88WfE",
  "DjoBG0vvIGLUR/t/mdrIm5SApExvrKTssx560+w/1wBD2HM4+Poo",
  "B7QuD2JbG7K8IN+9K3DORR6+RcrZXvaWwKXxzZqszs7P",
  "CqzOEtGnKwz+K2UQMEhQM52eQm8BUqpzVsYGcbo2h40RiG6BoK85qGQ5r4JBxtHH9580+G3X",
  "B1g2O0kgSnnjTszrWND7Zez2Z55jaThebiWscbomhSzGigxsi+Zwkij8oK8V6reS93gx+ZTk/fU5",
  "ARFpB95eFJWuK0NAMxUXOEsdRJ3McLvglCNHl9+pmUayxhae4XO66wPT+Eof+m99/BTs/Lt3",
  "IN9hJcG4NSnHQrGeUtAOU4iroBIcpUno4KfS5zWu",
  "A8v6BzLvCa3gCurkF07yHORkJTgCJVRPMxqVNjPhNkXVZR/sam12fHT1gVRngeyniqFKk3pdmnZh1VOo3sIo6g9H+Mfa+vuG/e4j",
  "E6XtHMmhT35ObAqWhQT6jChtolI4pozqwbYd1tQ68MRf",
  "Cmz0MCv/Xw78ZxIwaNfycfAkfZ9Xp8P7waNA5H9N5tC9+oJi",
  "BZa0B6qvDSh7IhHGNkqwScuATzR3Uo6vUsLZZkXJfIV4hoTsrYZWtfqUuein9qs8",
  "ARXsBr66GgPITGK5fPNFnCgTn3wspQAlwG9nw7DZ4MLC42F17ROz+a1K/OSc",
  "AFcPBkZWEBXhHMfRU0eGgGzZicYcnVDeo3x5qzT0rFKq1/io31WG4JVf9CKt+rAE",
  "Dr/BKwkYOGoPOR/rR4WDUu/tXY5Lh/mMjEIEmS50nZNJoJJXqRavw2cCxJqg5SfQ59aK/CuA",
  "GOp/NIABTeHJWtPgZThSfI1bgdthhoq/jGXrkblZoHM/paw5wuPPyF3o3CuR33jf4W7f5I1/+OBA",
  "BUyfCux9NDVSPQLHVp1hYo5no5qvp1uvvk24xZKE3oh8+Alr",
  "BmXDC1BFFcIpQD8VQmOaY86JZyqWb1S5pWJis6VRtrWmwpTQxpNiyLz/4Aaw4mR872Fm",
  "D7NaIllCKk1KVDQ3h1hoj/Z1lMp2mDVjn6Y1pN8vtsyBvZpeySda1MVv5I5r9NOd",
  "BtcgGVgKQZ1wXC0hX22cYvkeaHNEbufrdZAhjQz7lHbVnlbYpoKbsNGwuchnxi85xpy7zjMp1RrR9rR1+zMX/i2u",
  "LqsiRpRrR1RMTqutXJFzYfN1ZOJ6bNmKjQDtmmpgnWlEtxi2uez5vQQwxawGxdBT4K3F9DsT9EHA+DLy",
  "Hg9FIBD1Lhf8MD3XUEVQVrVcWLLYYo+VajDaa0U3bBpsc6xZktqqoxq4qWugrRomrbHRyKGOzd+s2igC3Ubw4a0n5+7w78r0",
  "GcoXLPR0QtRqRouNSMwnXqCSZVC4a5zlfKXBgRNahsL+kwZpl0YYoIulrychwHbK2T+d4MLZ9lGy+Pim",
  "BMXZDZGQGbaxMrM2Q8jBWXKlXkT7btcWce+jdKvpiIWooISqw5ibzPUi0EmJ1wUG3qya4YBk90xF/QIe",
  "BKJkFOX5H18DMZKlNv2TR8LwWnpPXz6OZ0L8a+1Ab/4AgobRk1Vrqj62zCtA4B8W5ppD",
  "GnxONqDpR/8dTG9MYV6dZMt9h19in76bq/QnshTwxBamycj42HKT4GOw55gt",
  "BzHMCAB4EzvOX4TBYxGEa4U2cLlpiXt6j3+zmmccnm8+uE+E6nKe6rsC8F8F/8KO",
  "Jv0gMV58TBKUTPDQVsVhZu0Ias6Ha4XcdetIiG3cjg1bnYGqrbNyugVf1AVJ2SaY433C7wCF9FN5+JI+",
  "AunbOi4fRVOpUF22WJsZZSCjZ/2Eb2alng5CoK5wtdGk2ENu38Mf6AdW9L4M",
  "EF95TbA9ZWkebrUzei7KfLQDfL4nl98EqxkcvU/xwqmRw/N3xfnx0RVx2PPi2VgD2ZvV+REM+c1K+m7Y/vWE/wHv",
  "EQm8NSkiPXBjVKcLWZVvbu98fBw3fRiBhHAyqcfJqg81wPFgxqixx2kJ69/S+F1W",
  "MasLNIJpRNnXUoOfmnW8rbyCv4IqxIQ91VMD2IzC",
  "B82bK4GuRBUXTUEsUJ/hVV/MWNrPghpDx8Gq2Ir57Tm87ldw9yD6+ntb",
  "BBaVBqcXKnZ6RZVSXw5XYynqZsIZaNdNd1W/eqqogKwjgehlimotwQURw+gjy0Nu1H8n+rK6/9r0/+nQ",
  "E37pHipXM7VfXU3TXdjnYQuAf9Bwi9Adm2Rbo54qtwvHvMjZve/ewFoxy+yb427/9HKM9qQJ",
  "AZw0BbpYDKKNNHakPyXEQD67UY8tUnkfbncxceB2emDRjjtlnBMRtASyxsRbymBhy2cl0hOp",
  "AFZqCfDFFHv4H7bKKsLgLLMHUt6gZOLoal6o4sfn42VX5/fU7dZ2+3NR/w3q",
  "GRHLLTkJL26eOZuTP55OSGPadYGQfwNmjPsskEgApTN3xJn7yx+R4wE248F38UDW",
  "A+O7D5zOF2azKCGcMcNxNJrPP7B/P/L+QBdUQPM0UL2gVGoQVIkVfj8TiaM8yy674xpa60dM",
  "EMd8PQIiQHxWS8hQTVmSYGf5dky0mcnloSybs0HdulG5vQqTvgsC1uv72KNf5/TQ6EeW8182",
  "CkDaDGfIH03xIoQ6Lh6RQ7ngTNbXWbMOXb9TXya9Z9UPaO+zcX0Vn0Lwr64esOYLsW8Vu1hqy6r01mjI6qZ57jFV",
  "Cg7kGGoUGtuPIBGKLOzJLj8xM83FT/CWUtqadYs8goD4hJn8lgr1mcEYr8Nwxx5YzXy62Iyj3FIQ98XP",
  "DLrzGVdlIaFqNQTFPBVFURoWVL8LXa/kawu3lI55syncuOq2vSNU0VqE0ano228H/6mD",
  "AE4AAG7QCcb8H3fyXJDOXsBvbWONcaHAciuvdV9CfS1/o00XqQ8rrPFG4CIf4K0g+h7m",
  "DLs5L/E8MWZ9NvLYWUb+g8zyiYkFoZTJqOe1yOya2M4W3+fd7dLD78pP",
  "CEDREsvbFOFSFUEvF38ZGe8PLFgfQiXGSsbGSvXOZpWxgn39gomUmULPn0mXpeStr7RCr/JatWUatb0lv0Yhz2KW1DVm4Yag4nLQ45O38mkl9Lmy/tx5",
  "Hcw1IwrZTmi5ipW6ja8BrCQ8wdiIx/J22LvF3qA9",
  "AVydHvDoNGleRIU6Xz8jcA82cp2SlScpoZp/qBqrqxexuBixv8+nxBjvxhll4B5x+UOB",
  "OFsgQ9HHR1spV4/caJT3atkKd6MakBNimdl+qp9xt+VBxbqN0J23+sQi/nET",
  "Bj45DNNZENSGG9C1NjIrOT4EZW7iaPVXev85i1xrj38OkQ+aksh9qP4ks+RJtJWxu8q/2xmJ",
  "AIc2EYU6EoUkGlrFM5xUTjkgXKk0bKgtb1w8cJmThFa7jpfmo2V9rAP9vfD44MWG5/oX9FLU9FmB/1ke",
  "BRArCd5dOkhjTWE2UF0RUjBxZ/zfafd+iOXqip+q0pix40x37esp/uyW",
  "DoZ9JCK6OjVPPFfYRJyCU3ioZWh5fL2Chbean2H9oKNmo5Xlpt1B1E3M18wD3iiL4Z8G+RBn",
  "BUlLCCNWELgwF9oHIB8aIYkyNSh9QJOGcCGuiRqRn9Vgq1uvtE48toBPud88wkaB3rij55dL8+Oo9AGs9OB1+LbH",
  "ILB/M3AoTQNEVHYSX36oZZIndxPZfCM9fpvonXS7p4pytpqDzfbJ0yj84DbX/V1O",
  "ClFjE6SjGQFbK2sNjptPn9Zcr+4+smWcy8RE2KDW3csP6j/B",
  "H2JiH5wGKnXVQopMYs9hZUBNc9fRdueignfujm2cmA8kqJTExz3S4zZO5oNH8rS68xae",
  "AD7HEToUI7UBI8OkMy9xR1fWSuRzVaYsXMGaYkZiZO2xZcq2a1EOdzHenHK+qy2Vs+WfvdRR1HMt/B+x",
  "K1D3NHX/Q/9aTOn1T0uUUHV3Unh6X9hCYdNugYPAkszYt3vuvoi1xsO2yLzB4Y3N6YEx9Wer/nud",
  "Dp7jHs78VNJDX32tbsw0c0s0mnAormmksLWVsb/puIBIuv7+u8LD0S0y31Q84bds6oYw8pd5",
  "B/JTHr/5O8v1RDG1UgieXMUeZP2scIqNemySmU1lrhAqtzTtviJhxJlW0/q76uzE",
  "As34KUJqMcLMNEN5YbiPYs5udmeVoHH1sKhcv1N3xEm7yHDZyy4W4E898O5H9vyX+Z/t+vf+",
  "MbqUPQF9QPkaSeviSkEmVF24dwAWetTxksx+lB1yn0m4n+7Cp9OMsVJJwQF0wgN8zCjzzlNr0GAo01VY2Afj3ocy9EVN",
  "GJD9HwsQI5UoJ5mhYVo7ZC/ih2JCk5/Ppa24p5cGu0hLw//k1igN",
  "BYcIB1VMGOWhLrYIPpCTWP6vXNoAZUSAn6TruzF0u+N2w3yxx56py4JU6zXL7g6M",
  "BRO0GVbAMNbMNgQGOrx3QlnhRA9ORXfiUI3dUkuaZz9LbuahiLRTj8PjkAzWmncQoU05slkjvhLc+cNT/6je",
  "FIzaJeecYVFtnVhCqQW0xZVP4nI96UT07DR5+h5B/mOT/yWr",
  "C2mANNqzSHysW/cPyG192H/M2cG278mq+HZq",
  "DNspEGk2F350IIuwJRfPKKjNNb2XWXmqXx3DgojvlNUQoFnToIpbs0cGvFH7x21Pz3aO0Nw69UpE/E3J/tvU",
  "Alc5MqV6Qjv1SENnTiffZhpCcf8qeHZ0hgMkirGqji6Lk1dQl0Skrvsuxio/yQnu1wO82Lsg4EFf6Hfq71kx/08U",
  "C+9jNGi5OiG7WhfpZSL2acodan/5iO9LmtVHn6BPoh8Y1q4c6lnv",
  "ENkuEVeJEzE2GP4HN7k1O1nZSynEUhamW5FfXmiRYAD8athlbKvBfgbGkrn4m785n71RpkLoqMVNroaIt+iNxODyx+kl",
  "Chx3DNK0G36wG8V2JPkVNeUeQVUMRXXyXq0obv8Pdi20l7//mo92vVuc4L0T6JY37UM1+wJv/ZKQ/8FE",
  "AIaRGtVYKR2rM5uvQ0RiZyWTbKgnoMGho2TYwn7N1WyN6Aj16hrI7GuM+jan/z4R",
  "CBN+JPl3K11qNkv+U++zWHhJd4fCgT/livyfpDqCu3un2R1d6gJ87eqE8u4A90yA",
  "DqjbELlyE5V9F5baLl9qNL5TNaGtUdw7XDeuYhsBbjIFfvHbgqFVhzGZkLe5lMnCn2FYpvAvqwfhsIWu1E0n1KOP/vQ6",
  "AR/5AYlKF9liGK3yOWsqRT3/Y5rpa9sdexJNmjsWnnitrNxdty173ymc5wu27eL49zQd",
  "EChXFTNvGtZCMl2tNIEfOp1kQZg/WjBPYly5cOarh7cLiBVqkNCKm5Dotpnet5AXuBWPu9kIxAKGxJqbxO5iyKa/2FBT",
  "B1rQFT/TIaRqM/3sSSY/VKVKWBPhXho5YdlNascRbV7bdUINdcZweXXce3zIkFXaoXqjsmT3s+Iqu0kNv3YPx8Bg8arB",
  "DOsaVBRVYs68ZQO6ZbcNcW+ofWhRiF9HkVyRmqfco0+xuLhjyP1vyov90AI30wM60+nM5E0B8qmi/9mq",
  "AJ73DI7uDeuqM7QVM8nWNOyXNr8HUxl6WfYkXUyJaJ9cdIiKo30+qJPcrglqtwpz0Cl3+D6V+k8N",
  "AMziAsI4G8suNHVaPpZvUnfVbhWAb8V4fc9aqmpjyCyY5j/i7gLq9Goe",
  "BhjIHIfmSg0nSul7Zf0nfRYEn3m+pDyRqqEYrGYsrec1vEk3vP3q31OX4I7C4bbH6Szp/wyg",
  "ExEMMPolM5TXOxQmbJYrgSkqjr1tlXH3mlN8p0tWy7eT1fau2mpP3tBk5SDd9Mfd",
  "AugdC13nFuaGGtwsKvnnNJmFOz8QQBYKVuIyeQ57loCxrgQ002d0",
  "ClpoC8FFDcGEGO7OG8h0MFcXPQDYP/AscoPLc3fjggBcinVVrnf5t8bLvcsYy9eP1npB3oaN",
  "MD3RN3ASOxKIU2C0YuciawfAbtBxdv9jd/aFgvqHkXT3qZ/nrPJPus1kxCcc7WXT8pWU",
  "ALddAnHnBYZjBfW4IGWyM8x7OBFVVJpUVfU0WCupXBEFXNlbZeJ3cN0ign+unkSGvden2CXC+Ypl+mdz",
  "BBqXJ2cMMkRvNtGGUI04UUkiVLzjVnGwbuX8gbPZvIuQx8PN4eCl7htQ",
  "AMp0AXzPFVQHHGWXHZtaKo08LN6+SiWNYxMhY3mDY+EoZxv8n5Iktsgmt1/LvHknwt4PyNJx32v94c8t6C7D9feg9x8m/mLu",
  "EO0SON5wVSgqYuNoZRVtbAvpczDVdQN2fkn5jXo93ujK8pHP+L1b",
  "EGiRNbzylrc3m/aQoIm2tI6Xvl2/wefU4SJY6jqs7/AD8I8h/gkC",
  "E2LBL1VHW52sYPNhe8vWiYJ1j1GgoAaDoXsGqxgFybx7zty23p7z4E6w+8h//Q0C/RR3",
  "ERVJLP/PSld9Vqu5WtoZXY+8ZEqNZSJRavuhbQp+bw/seNkxgxPZh2a/kNNbprjfu+jqvabkxBelxgQo2EFk7HuU9K6++q+C+uI8+y2Q",
  "DbWWM+ThPQsfRU/gXPHBYEOialtZatfAdt1LjCFIn7ysxqe46sPq+aLL",
  "AWamNBcoQKaUUKWeb3UCdm3ihIcNiOGoiYhIl79auARSxBhnydiL68Pa",
  "A6MTChM1MucrNIRXPcfWThdrUd9IUrOCZRJqb/OJhIgzlDwQlTiAuSsruap3xYjh0qyg3Ihz4gOP6YxB",
  "AHiXAoVbItrIQXviTn87VgU/ZS3Tf5ralzI2re7er1BAs+EGw1+9zGUt2x317Gcf7ayQ9Tso+NXB",
  "IbbBIrQuT8m/UtHCXDcJYwgpaUrwoKIcqVGotoKowXNJz6I30Wow32Kg8uF5",
  "BDBtICA+Ib1SJfq/JozxKYk1Ma4ONMMCObrVPcZYT8WRVPNiaCkAiFs1lh8UqfxUud3yzAhb3rdZ5LQI5wsR",
  "DIAmEIHLFMYKF7NfJIZWKhP+PZ2kWi+qZTq3dJW6jFaukDFrn4nwtpk5t7FfyvqfzhWu18Zf2yxt5nNB+NKu",
  "E6mOHnI/Kk59VVBLWpfOdcXLhpgSn9USsmRSuhEcyfcZ3em946+H",
  "GwLaHX5VNuqASDB8S+ZEXzDecUjRgS1UiQDei3MajefJmqc3squctHz0uuDe29rm69tE8neE/9kF",
  "BoLKKWl5L38nZclscGJodgGXdhQuf0TThSfC8d/Z",
  "CRWsUncwUyWlU8T8XVpPbDy1cmpQcrUKdLZXe+F5nRTupQKtvpjm1JaF2TUe5CAZ70j6+bqN/S4u",
  "DLV2D7P+HLFLJe3qOiYQYALIYCxWbq6ZfPgmgrkWmlXXoiE1oxUfvEiSv5RHwysS2JY65Dcq55qa7SrN+oYm/wv7",
  "B/EJEyULLwReNhImPu+dZPxia/LecDAffFFrhDLxhLffpmEHruklusS+vISQ5kKN6kwC",
  "AsyuFrpIWkgQYuLHbqJyeyt6ij3Tq9CLsfFotP+3vTfxzA/jzYBa2GgU/MCz",
  "AVyBDcDfLSqISnejTrJ5WIfUYJHAZTKacunjdd4xfvRmmKGPn+14pSZyrzTSshBWt0mNu1zdwgIy2nSx3CFN3hW69eIN9eVW+PbO",
  "Gfn/JaiELHUsNVnzPQjGUX8oVqMwV0Z2hA0Fj326kXRSlXW3mr+dnvD4pTVr6X74+ero+2l5",
  "BYW+BpswEkVpFSwNFW4aGLBNHsjPJ49dL35bRq6jTKy0UfTaUhwoWgT4Yr0ub9BNgwylnwQLqLJPxRYzxfNJ4B8J4gM17zNw8qG09T7B+mbO",
  "AoL6JbxMJgOhLNbzNvmyO8kuPOs8TBYRVbqWVnELhUYyiE2CjaZIkx3mnS1Uol+NxdTB2U2E7hqr7oZ18/8j+UpC/V+u",
  "DbpBSfnaSiToXmc5YGOqub9X38s757MA/mJJ/yRh",
  "AFSSCRn+ZH6DbH+VfTtriJlslYm4mms9pXOxsJKFzFgU2fwE3lZ24n0u9k3N",
  "GSnlJLAfLaTNNbxNR0gOSgCgY169h1NRlADXlPewoDM3rVPnwfvvxyiW2IB6",
  "BO0QIizJJ6P5KaTiRcxcRidMTrhxVOr2X5agbT7uc6RQk9NpmplSqeqRy+9Q3Q7E/BdA",
  "B+k2CoRIEcBLFIZ8I88DKX+lOkuhTylTdAdTdZHDeXRvfGOFlLyupVBbw7AFyKKJ7hfZ",
  "B3eZHPEXHT/gM+Q8RUqdRjATXE0AXmdHYtWUatcbbAhwp5HC063i+n80+qAP//Zt",
  "S/dHVolxfuv7j2sXl761qK+crLBfy2Do5hWO6Kk27jMR/ZBc",
  "CbX0IAMyIcZ3Sj1OXyzMd7JieO6hmp+qw1ve06iO509m9PIS/hTH/zzH",
  "B/Z4CTJkDjxLEJFfHUQSHntLIMyEJ8gfKp2ZLBLIMvb+PkTRSAVOVz+7bfNBgh/4kVNGljsdlzGRmXznpPNCvLy4w4uz2RwT26zU2/qY7avr9NK7+OV++o+x/6Ox",
  "BOR6B7yxIrOJP077TDFoWN1tXDZkZQ5zkiaiuovuxy0Z1tfO",
  "H8rINFDJQF6mYpqDcwZqmjnM1L5o3ra04LUR5wps",
  "ACFvAotdEgVRRQubTAi9W/THeZ+Qf95XquhEtpiU2E8J2bO/5M89",
  "INmEIeoGJBVIM/yiVnfdeXSSjz5gkOy1k5Azm9pKry+PzIez9TN2+Osh",
  "C7NVDWp1HGHTJZasJvZXLt+PRZpuRd4XUoZEVqHXa2NqfHS0jecklt/5naEiuBwTv46Z2DhN21Is",
  "F0G0GUWVIlPbJVsOKSs7KS5iM8NwNqx3SlW0VNlxZcjHa4HJcZX3cbyefU4imxJI0mWU",
  "Fpl8MvDoaJBwe/RBf+6pg8Cno8k4zzU66t+k",
  "AF4MBRpzH7tYL8UmQFBySU7QYCuxbdHIdMCagUcRif9cj7urmlUyttHYvEft79oz9EPb",
  "BFC2DjZbFyrDJG3JQHcMS3mHZPu9bbXMcZhhfFDGgW1amlIyu4pWzDTU3s8a",
  "HFa9ITDRT1ofZVJ4j0xdoqDZrJkju5Azvzh8ySFn0rqT1rAL2QG02Yxo3wuN58Fn",
  "BvYACTiKDcA6MsX8Rf+FekpreyPYfZIVfy80gNuRjSSQn+zTqkZZrZLPwgGNzvYZ+PYp",
  "CuwdEsPeGsKmIcWzMDyHPqKiUp6qVSwpWA7ZWEiYegFPgGMumavbqDATrZzzwy+68Fi18pRK",
  "BYUZBpqLDVYpD/yHKXOMNbOiSm4aZeEtgKYDoaWqpo/51aoS6NC1+Ykb",
  "A5YYDBZBJQvIVOyvXwIVX+l7ZV36aLY5dXaPdsUUjaWjkNF8kx1BnSyvvMUdyAgX84EF87x28/5+9e9S+QXo",
  "ElNUIClaMj+Cf8UUoUbFr9Vi1K+/57Jb8wEo/mGk",
  "AgyJDHY0E+soK0U5L9M8MuKVTlibT4+xV2sAWVL/ZRQjbAqfbd5Ucqt5fGkskzDup4XdyDm50NYM3ueA7TGB+LwR+xDk/Xjh",
  "DCrrIQ6ZJSktKUtwYsSHajo7a5OXgSp3hdR4qTNBvCxcv0b0zbOw4SY9",
  "N3jWZwZnasCUbJsDcmGijTz2ks59oAU5q1aYsd1msjsb1f8d8Y6N9Oqb",
  "Ex4eGSi0LNKjTJ1jUrcQabeggK7pgpyIpU+2xEJr2Ktk",
  "BrLxHvfkIekvWdloXnRNYtTvZT5rcSogelWtsCqPwQwJw1ZcxKFLz7S5+JH2+aGB",
  "IeqaLsq4NyzcYkqebnjbg95ljG9UjNy+l74QnUUVycvv13+R4ImW5Qgb5l8z7dZa9Bbk+R5O/6vs",
  "JjOeJ7XjKROgb6oZhIbpmJSfmdkooHeLqLQ/q3oXyJv845Ki58rB9cVu93VL",
  "BNf3BVloCpgVHZ0XHaVMMQ0CSKf4XnxjZSyJZmQGaAlXfIGSoGd2pOoxqfCas9+8uVvbvTU5wnUM2Rtu4r4Q7atG+NR3+Th0",
  "DP6sE3NRIMtqJK3FOsB1Qb4BQwibQ91fXSa5YxDMiT6UioqQjkHKlyXPrX2otMzOws833dU8",
  "AIeEC87YKbkyNaEePSt7RSiUZx7NZ8+4bC63li0AmQwesN/fsfXMt4o9uS0Py05yy/sIzAcR3/rn7F3p/LsM/V53",
  "EIVnEgSsIlREivtIi4mvllP5n5pspHT2vLhF2E5k6QJb",
  "BAQGBstXDBLNPMfSUy1oU0z4Yu1Vc6Fbh0ctnksPpfeZrqM507jp46499IUr9mLX+Q9j+bnn",
  "EGxyEWGwEzhzOCCJRMLPRni1VqEya2LFbfHCcKNshqNIiiISl2QXnV17oQDPtWugueEwxTesyBHk0p4l5cnq9C9K",
  "AsWsC2MuGS4aGUTwHUQmH2JMP1EGUDmHUpsnX+cneU8/neoTq90y0tn83NAS5+Mn7Uj47xjL/2Eh",
  "CHZ2Du0gHS9hP31TTvQaXT7KYB+XZUTveLhsfJn4ph8zyGqFyWbSy0hT1uQe2Quq2TPU+Ozd",
  "FABfIR6WJsT1J7VmKQP6XbuiYCsMZcAabstNfwqngQEmjuUbj3ZHppK1rl0ZsUCgs3MkxJD+x0Ta2LCh2fxL+Lv+",
  "E5JDFIRYFyoeOvgsQHZnQ7mXTLcCZzczafZCbVckbyfkdYCYgcuWmlGNu+6Av0lex2sK0VfE0rwo0yLL5DsS9DcD",
  "B6lsIwYmJpDkLub1MCttZhdbavq7c6MsdRF7eyowfVfOsxbDs2A1s+ZJywch2GbK",
  "BdpSDb+VFLZJXuooYwW7axdya1HjfCdIjqk9nmN1rzOIuvXz5NYL7ZOP7eyo+PWE/7bF",
  "HBDvHRj7MDviVrmYYw4cfyh0hB0LhqO1jpQImcZVmpMCnXXhubtDufmWy8hs1Ho59E5d+hM4",
  "BIzcD7exIXw3I5EvOIlUQpt3RH+bSm11UTbzaUWtdnupedMOejyigHLUkdzOoRSmqUOh04hZ5Aab5/uN6Skr",
  "CwGWEQBEFLnDIrSpKzbSkri5kxycmyUBqL47rqRSu2XDvbNuv3ID2Uw63R7H7MjQ74CW+cGB/um7",
  "BP3sDmThFZA/FuQbTSN0UkXmWlvpmGA77MeU7wL/",
  "BH+DD6FRF0KEHVVaHgK+MZ9CNHagWsmHZYzgcJNxdu6JeIrWl8F+mmnzp3Q8vRw7x0gnzFbK0wrq1Yvm2TV+516z+xA/",
  "BrCAELFNHK1lOnW6QakjSxq3TTVjWBzmknXuoQhsrLDkvxT/2H8w7dRP9pU4",
  "DVzgEcR+FeOgFragTLKoX5VWYx4hmrZ+nlAlqcdA1hOD1kSZ+frk",
  "D1ebLp36M6mWTmjCTygJUrZrVtH+axMDgOExhHXNirYupU8RtPtivC40w6672Gh032Y58ERT",
  "COjOED+VQe+9VCbUY0lOdKLPf6zumzpdoDtiuWCAvWF4wjDU4ENz7dEY+Xy8/DMm",
  "AEqhBM6uDUJ1GBAiHv+/XdpYYvh5hSXFkOqerM0X0dY42BuI30kY4Ijx",
  "HA4mHNY4Js8xMQftMQnRVeA6fRTFg6jDiKaEmJP6qMOGw1qU0knR13Fs3zcs6c+264xP784U",
  "Ej8nUCjdWYtFehQVjRESotXpsKK2xcbixrsI4eYQ9luX+PF9",
  "Ql/ZTU3JV9QjWAo8WZetXAbfYBvpiklhoTIRx85H2JeW3nwO",
  "A31WDGdjDXryEjHzGHMDKbiNKvDnMoMsUJAnXxr0aOPqpVX0w/TAw/tTyOt61liI3Df33/pC6x9l9iNC",
  "AL7eEgQHExtMJCKiJPYRKbmzRm3eUs7RapbUdL1ceCgYsgsVtdZStvhvvJFBx4Rw1/lH7eC39F68/bgi",
  "BsqyDK8qINy3OFOQTwMBVmBYaCbOf/27h2hzlmh5qPZpqc6QqwmDzJzJ34Xd4yvz61qX67Sl+blC/xie/02u",
  "AGMHDc5pQWOxTp8/UDOga2Ige34qfsmLj7Xco0FOpjuMy+dn32F+4KFX6QtU9C6l/TBE",
  "Q7YqUDjiYFsnmzXCpfDVzr/T7cb6",
  "A/BYC2V6FCgUIa68KWjNMERZNXvDOmfsPVM3R2DmSBa+Tp/uVXcSZURKaX6LfJlTnl7unz3OoH83s6R4w5uN3fhK4XrX5mIL8uwn+Ow4",
  "EJQBHR7MRAH3Si9SYCpngsQwhRCyiTsEkAU7tlwgx+at3pR053Mc8795+cZU",
  "E680F6u6HOghP+YtTRgWXzNaZzaOf3HkgiPCwzr21qTV4BKo4rbo",
  "CzugE1sKE4B0HE8zI6apI99lR62uXXLWaUJtarcdcaovgGPFmc21n7ItrdXnzdBi2QBq",
  "BuMYH3fXPbyvT0PXaOmObhahglO/nmLQqZYpwZU1wbG8xosOygwJ+PTf",
  "DAL5ORCyOZmLVYH9WKe4XJ1re4OYhBxmlJzrnXU8oi8QtwaJ0kiJ1J904Lm99EcL9E24",
  "LgbzNS21NcwZOV64UFFIVDKcX2NkZyFiZ/EWcD+bfsM2jEb7mIPpvmSG2Dom5IYd5/ro8Zci9UN8",
  "HhEnIJjyLEJKUInCWQB4ZVywfLG5h9froJedrlsiw+Ts0QkD4ZM9+QSe+4dn",
  "CchbCxYHIYXOMSddVLTzYDlMepuPlmqHncGpqPm7yko3zJ4uzgUf6YX/6ikd7hTG8Jh7",
  "BIMVCKjzJRaIJyWCMZ6dNVjKOXXFaN7zeZfVjhsEvYl1xCWMy0eezWT0zyP54CsO5FLT5aB09J2y+w+a",
  "RRyin8qTqkBtsMUavlhkxxQ2ye4755x8",
  "Ae8YBTqpM2pnSABySiW/VtvfV1mKYx18hGg/kqt9ucStw9u10RiO07811gPe1hTz/TGr/86G",
  "CSfiFVAsP5ZpRJR/VtFZWIstXLXRqyHM9F9x",
  "Cp1LJ0otNNzBNwhUN0AROY65Pgm2QjWyR086UGmuUreEaAl8bqefc8VbelRjgOzYmzm4nP5Cubt30mQf2C0K46O7",
  "BAUaBM4JBRd4E+ejJopGOqJbUR18e0eXjrlxoMkAvyFYxabK5QbR8rQX+R0E+wAc/wF8",
  "C0VRFIMiIJ3aIsNjI4E7Opv5Td/VW3F+f/Ryglb0guZ0hG1Gh1yUmJNVt6iKvBz3y+n35koU5+Vr",
  "ALD0AmaLF1pFHkRrKPlzMbcDO2MuZRb+cOkZgPC4gsQfoGYspp45wvy84EN04pyP9lry",
  "AbXFLw6DMragNvt1PGvHTInRTU0kVlhobZCLbtu9fVd6jPz/tEbfwEzS0/oD2Jbx",
  "AQ6cB9fnCnhHDHcDFraKHE5rHYw8J5VSaONFbCBtcBVph/yunD73qrj2rwFzxbCPz65c2C1D3zSU5myy/+bs",
  "EgNiGvsAI8E3UfJ3ZPpOZmlRaTdqb0r3gwqFifVPi1QTmsMpn5kiqjOK1mib4rs2+k16//sX",
  "CXnQDK6FEe1QHTNdLB1WZd4fbtrgmmtH4Jjk47b3",
  "AGJiFlQQGu6wIT7EIoOdIyM6MSwjT3r2Wg1JX47XZEPEaNjkbIP4bxypdColdhm8fWi/g3BznUx5o0CppA5hp7vpqVi+wApYz6bL08m74mZ0/S+f/xni",
  "A7tkEJRZEgWzGCf2NRupR4dxYvOEchkyd2GvnTjfq2S+q3i+1T7R1k8q1pcL6d5N7cZV",
  "CDVnC4YfF3KrHX3YI2pCKPhxNKbHdv6TffJxgn0mhw1qnz0pyGk71Cj43ucP4YUW91oT+ZVG/avm",
  "F2fKMQWtSzWtYDOqY3a6cwpjfRXJhS9bkof+olcn2K9X+v9a",
  "KekDXg3ZXjzuXzK1aPurkv0Ep9exqFHFqZLru7TZw7mKx2nA3xQg5LPp7Vcp",
  "ARNRLwBMM9m9Qw5YSikCT/pVUNGIWZmpaANPa4aCeVGteubYfTFTfpKTj9xxk/TqmNBymc0QndDuoOFnpTJazBbY0i1f1Jkk5T/K7HmI",
  "BsGjDMbrRZGoaOjpg8zBmoOtmxheoCRXrLW61HFm4lyB+Ovv/7V7",
  "AHrIGLRjNLw3QeI6brs5ek+YfehSiWmTmyKpo1kPuocHxq5UyGdr4LkY4sTP9E0T+ire+lOi/xIS",
  "J3kQNsvwSVv4ZBQdfHDtjRoEtZTs3bZP6b287d67",
  "DGogF4sRHJvdIJhNOFsgSnYGWQkdXu9lZul5daPHd0Oofekegj4ggpWMn1WPqWh+qiAcrEH9rikvtGOs1uEi4ZKY5K+/71Tc/uhx",
  "BQ3wBjC+DK0IF82ZGIe2NZfVOu/3PDcgPjF3YKNoY9pZZSDqa1OBdiLdlU3Izc083qw1++tC/Ylv",
  "Aos/BsYJDnFBGD4ZHyH7NBpGNHVWNzKhO/mqPaU2ThsLX0sblLvAtHeGtHe/wwi6zFLW3Ct95rHx+oD8+w71/2ud",
  "AALJC50WM/IjOL0cRRv9YkqnbZqrcRZWiiwsilEmuuOUu/YLwNSUy7Ng",
  "CAF3DN9RRJ3LT0DtaQFPfaeFsy+jvcwGvyNQxsRvxstc4lId7FWB89Uz/3TI",
  "AJMuM6hMR3XASNBHVdEFWn2bbLTEoIfyo3F1ptyBxg5b0rRT1dLJ4NF+9F7M9JNQ+kNE+5WZ",
  "EBjBEn3lPGIWPqEoUGkJVW6nc23cgOwzjVxAmzkTpZVSumHY1pkc7fch",
  "BM1kEmVwgY76ha5ahcs/n231oiOmtMDvtr74v+PNy2o40ZJr1U+C2OHs3aMv30fO4ar+5mYI8Unh+Rxf",
  "DyYRF+X/GN7qLIPIPgPvZCYzaijvcMrffzKAlOVergqwxFKWx0my3sSb/fbb",
  "B0rfCaIqFQDYKPjOLDnHNI28OSBcZ/ambMgmoGWHpKRhp1kHuIu0yGRr2N143ebg4ELP5GqU9lpN",
  "XQkTa+zTbVo+eKUWjmnen+JUrDGH3nrE4+dh",
  "IpsBVDgpYttZiKQumnkEqgcMw/N29zB9",
  "AKuUF3s+I4OjM8CyXM2SZdaug+Ocn5h9p0t2rxqr3yG+6jUh7zh3+X6c/bbY",
  "CeUpEnGINfUEUIFvWYPCxs+u4F9M64iM",
  "DqrbIT4fZO47cyQtn4ZbpA28yIw/zieM32A04cNk+fED/KCP",
  "Cy8vC1ZTIraZSf5fZQmkaoOIfgpNqsTGq3gZxbZ/04SS9dJu+LGS",
  "AcR4IH9CNH3cQeQAVo+2brSfd6nIffHMjxtcoH3trNpZtl55uyFJyOdSyv350haO1YOb3Dz94Fs1",
  "B4EQK6bqObdJQlE9SNlXVQ0fcWKripcrn/q6oIX6uxP3vMXSxp/rx0fR3pMq5drT9yNJ",
  "B++oH8GFTESWYswUZRaIeosRrcuHtxwZuSjz1zPk",
  "EicqFB6oFOMtFz+XJhPgT/mwXOX4Zf+sZ6CBcajldw+/lhjGmtrqn5Ifn7DjpIkR0m1i35tr8ino9mKP",
  "FbMwGfrOHia4INzPIN73KkO4LJ3SUJnVV8mOWr21YbJ9hfYNmoMIpUCqsRm2v5U44A3S4lvc5/p78GcQ/lbF/7TW",
  "DsNBFJjSFsImIpp3SQvOUQZVdwxlfajOlXvsmM4rp60T0a3h1WaW19F94n416V6e/CBo",
  "BN4kE/kPHU0IJsx6M1VmY7sxaMOgbBiGkWUfxFIl4xKc5QiO",
  "AEZGAVHGBz8kCpTXF4psLEFSQGpJWQh4WvIdcvK8ddBogpTniA+lk6yUoJZTqG/VqSaoqfjewwbj0oMq3GmR307r76e7/ufM",
  "GPQCUuhiZ60sa86vd5Cik+oFwsav9SVe/r4s",
  "A90+H3GqVu/sWiPhW140ZS7uaZI9kRaekVc0v2xM1sdv5Rgl8xN0",
  "RRtYR0TVTy3pW/zrZtZIcaFTdboCeMD0mbncn8lJs9+fteKKtyVe6G3q",
  "DN6sGIaRKrcrL1/Mh2L3mWBUn1u2tJQsv/M4zquzz8sq2DWX3PEA+9xf/808",
  "BncBC141EWQ6K1N/Nj8qQn1uRPGsSpkSWDIDiRQpmecPo3DQuphOxc8a3t2R4B1D4Ofo54Kr+kKf/0oJ",
  "BU2xJxX5J9VgSbt+WWq3dwWTgOuOgiDCjtLkmzhuoCqKw8pT2SlV2zgp26OB4PQ56M6o7fZ8",
  "Aal4BMy/GcIxJvklOvq4gq1NoN/dsRS4wuZ2zoyF/wAy",
  "DddkUAYiWggLW6pWiEcfmkcO46LH",
  "AFPDAFnVDYHUGOGCKPgpMOZhNI0XPzRlWjxHYzqOfhJHjiLDnWD+nn1YrS+4rwLPtC9vtwKQ2FxL3bP633tj4q0U6S2o7StO9lmo+0HF",
  "F7ZeGVjCKhg0NAnkOhLkQAemV0JZXaJYY4bQcLeBcgd1ddJonC0BxzWK4zD4+OpJ",
  "NwxQOn4lP7TpTwUkURr3YGTsYtq0exLBjMtBjjEakWiJl23PmrPUnB7/rZ7451Xk84SG9D6m/+Wi",
  "AKrvD52xM8ANOuWfO84xQoP4RgvkT+pnUNoOXG14X9R6YarWen+/hD4+kyLJmj8Boh/+s8I9s827+d69+lsF",
  "H1QdPEw/RbihVmVCWYMdcJX5iFP0lFK7maZnmmsom67fqDX3wnwL0zgI6Zqp7g7i/CaZ",
  "IT16NEPbNFqEOfzvShkfVegSaKubcyOIeAA6egYDjr//n4W2pA0XqZTuqqP/31+P4cK//xiY",
  "CQ41IOeAOwEnTHfrUVtgWfuBYZsAihU6kRvZmVi4ml90o4ayq3d0z4vv9v2i",
  "KcYgNKV9O/B8QyvlRte9b0NLoTHWuDntw/Jdz1N71qVN3SX5",
  "AhS6BzPqB5owEEnGZ6h3e2xqfr35mo2JoNM91b902Qwv3pKF8LSc8YRR",
  "BwowJjvcKyEoQnB6R7MhXJsOXfpYXp9MdJMnkYDvrCRq3fvK4Uuq72/u75m+",
  "A7JuDf+vEeG0MYe4M9hzT/kLVmkqXOVTY7/VZ5/ceVBjoLCOqx5ltH4wvgtYxf/m4Q/G+nNr",
  "DUZGEUMZFG/tOvCwTPMQVn2oWr0QYYTliQgLm5YhuT6OyTp/4ls37idI9L0W",
  "Dt82JQBkSBGSSjGFVWoEVedDainMamh0fu0ei//Sn54cra+asaolxMC20MSz4dsl7bXW/zD+",
  "CSabEUJnHOXdOlngSVSNUAL6YGNedQ9udW+rqF9Prq9L0HqI1K+a6rt1",
  "D0YfEHYPGcFHIJcDImt3LVHiM/I8WQfTYlynfEQFlZEHoJWur3w/xxVb60V/8MXY80LY",
  "EmJvGIZsLZM0Om+VPOW3QFLdT7kjUmI7el3QfhjSi21XsGvd3E1K3qrr",
  "RgZSTzXwapYxcpk/owngqJtwrw+0tQg5u2wEzKr/",
  "B462HALgJ4J7MxLZM/DZSfe/TV4iVuuzXP25aqPhifLij4vZmvKrn8ikop5yorld2SED4Lcn+a7D",
  "BDI+EHTiStYNTuwZhudcjGmbuBBKySVkzcOJzpw5/WaI",
  "BnZcB2wlGpOcSknrVQMmWDFeaVhfbLN6bx9RdcnWkj4Fq1j7w2h71S3a3lmy4AU+8TTS",
  "CkWWDwwdEBd3JinEOppXO5bSWtVZZTnLd0Z7h6B8iKzYlv5prje0yF9h1gYK8/I5+OG5",
  "L0YgMS5pOCGxW99eXZu3hpuInC9Dwx6kxfDp4DiT5VUh",
  "B74aHSIaMIJRPg9tWS4oWS7QaF59b1YyccxdkYvXpLzdpWPbu6GXyBWK1PuB3sNR3zws5zKN",
  "Ad6kDN9vDSp0GncCG8rKKPeEL3x8ODgoWjuiZUavZ1DrmuvqqMv7uIpqxUom2Gea3K424QIO",
  "BSLBCs7qFZu8H1AlMqTbVDiFX28Vcj1zgUJbn+EKo3obxjCy6tcf",
  "AY3RGDCCLk+2TqQuUDJAUpLhWosAW+/Ha/5ubcXabqZ8un/zx0iAzdxl3w2c",
  "Bo7CH7MvH+OcIdnBJffPPqxjVjqjWiT6WxsSXs08X9PVZdVkbM/bbi0LoQU7xebb+X1S",
  "C337FONwHxCQLWRPQhcDRwvuWVkyXqILZVIxZjepaQepjZnamxndnSDmt808uycowBxPyDkryOuu02hD8/K1+Pof",
  "EKHoITzVKNmUOOkrPrEjbe2vboWlpAxyp8U71GJp1df72lVY56aS+Ctq+Oz2",
  "RU3qSIPJWTftZQhadlJffF1jpuSZq3bPssTZw4oTxKWJ3tu33yyl6f9N7YsF9FG3+LBI",
  "BdJ8GbDyG0dUKIvDNqJiQ+ueWlQIZ0XpagLlffCCgqTThkElpc0HtiAw1ryo",
  "BFoGCp/+DnkmJvkRL9OUMkD4YCz/ZvqeaJpucP9AdeopglM0n/lw2iZx",
  "FJKyGAQ4I6AWKuTaWdMic8z3iG9VkYBKmsuVnpLun/v9qP9hsCMdu1meyv0t",
  "BqcoFEs2GCQsO7wQT/hmYskmYzPUZe3KZ583kaUAlLfYnJtVnUEuoK/pqVtR+ZW4+nLG",
  "Eu+FGSgoMvxkMwl6TBX2Vn0DWrxrfDUajbJAlEqml+B9nTlMwoUs2Vl85ar/8vQf9Asb+nBR",
  "AqF9NSqbfKtmj1gXncXkoZ7JvMfs0DJX5774/zBZ",
  "CSX2FXYzFYIXGP5TPy4IUINsWdkyYCUCZSDAcEHMfHXJkA6xvPvzyEZW0M0T1VR842rr+Miu",
  "Iv0oJIwuLDRlN6ilPe0eQ9GWWQcuW8TEanB0a6eTcomhfAK2j1IYxGzPxG7RxyCrzKTuz6ld2Ixy8MUz+ILC/Ljc",
  "AoWbMcxLQnJhYb59ZxMEZ2njZ4VqlBusoyLIqYFEq/1esIKYwHgD0SdY1e+e3Nqf",
  "B/w4HXEcQvlGYUnsZ6pEdtzYfvsjjoyTunSov2sCwqk6x3lMyGXGy4/40pr4+J/8",
  "B4ORDnR2GaegK9+tM/A0OllNWv9kYuGMZtT+b9p9emJKeq/mfDzOnj9GpK/ZpkI/rtHntXmctnGew5/Fzpqz1Sxf5eJv95qP+mpc+oss",
  "AsEECq3aIb++JAPuPNLWVpVpfHntf4gSmV8KnVGypm8Grr2Ay6Q91GNw5GpM",
  "B0kzEHWrH7vkKWbfQJwAQndISklGVR87WDC5a43Rehhzlwanrm0br2WIxJt00foX59de/0i/",
  "Bh/VDkhDJCRBJ1+wWtS0ZJqKb7y9e4aWfQqfhYxrhuUnnUB7pgIHqJwUs7D51kFS2SgL3ORd",
  "MB7FbMWwhVedlTb4xQVexnYGxy0cytczy7A01u102KTY",
  "BZl8B651DdYaEgY/F6nYLiAGOBjoQGqeUHVCV4njexIBe1izmkXEqtJgr4/UuOhCuiIt1AfF6qfy7UAw7w5M",
  "KSGdSfnNVC5gXAC/iqxgi4Ihi9GdmcKRnnwOoOQ9oPb1viA3zZeM1GzB2FsB6XPT8GoQ",
  "KYbNNAiaN31XQzanTI55WWqwXt5fYZojYvnycgYrdgVSdzJLlPWWqCKdqNztr2XAsaqAwjaDzxdd5NOk",
  "B9yoDjQiEFDXLupoPrsQTwPaUpI8Vq3PXKq5a4uScaM5dpcjluQxovcmue3NzKXf0aMU",
  "C89dFWX+GVGNSWz3SmGsTm/SUNG4X9MwZXFqb45SgYu4q35kwnas1RB63+lW7OMW",
  "DdySFOLLFjT6INUjMxipPJA5S8FvT9JTWfOeaZuHflpxm5mqpSvfrKjoxlZx1qtm2UBx3p7s",
  "En0pG4n+TJh9ZllQcyI+lRx0pf7Pp7lVqJ9XxxdZ3nG+3q1u+Nm/+6Bz",
  "A7PDBFyuDfjwFEO2FJj0IWBSJV9FKkv9MSUCOv/dQIMESiylWAD/W/ZCYLcNblIqfHTFh1szml4qn2XOqtqcv8juv/VpxuDnzxb03tsS59bY9HjU9wx3/e8v",
  "HgW6KK1ZSjbpTx4FVhIWdQWxgqQuktbslbqRmdr3q9verKUbx6oY2HNn5tTH+FLb",
  "BzKgDCxpDz3zMumTRXYlTDq2T0gaW7R9XvbFYEqSfKCbiBd8kqgwnseSpv0uv4dJwLsRw9CR3XhK5Avv569z7Jnw7tzb+lsj",
  "ILqgKw0tMEh/N3A6Qm8wUqqiVKU/eru5hqVdiG6wpV2tsjkqxLkgx2BB6NZ17PRL+hBq/3FC",
  "BRGkBqaDDPbFI4pJOClWODEdSnoSS9NFZe0lZ56Sc3IAkMc8kaRblgmWoK9Es8ldwiYWxf6cyfju0DIR8cZY+ZUT",
  "B7b4EBBtFhlOSw5lZWnycLwPgaREjbGbjwJmkutvl9/YoFoMqCy6q+BbtNLoxPfm1Auq9Ap2+RHg+m+s/pLP",
  "GclALdGbNSn2dohHlxyFmUV6plDDr3wotPba8qcf9HjQ/qQ4",
  "A7w5CusTDM8KGyIiJ0alQP2/W6UzZSAbfHUkkAM2mnaQwFxw1VPX+MgJ",
  "EOG3EtUsLUK5MFzQSedJgvyalQkamcyEtjfx04k706jd3fLm8MSO",
  "Jy1NO6GrVC20Xw8rZxJfcWzVir4HjUjuj90Kl/kpnpXKopKSxoN31u0e",
  "BXTSBi4HEFW7E1xFHa3pHtDMMmSXUsMIYJtfg4hDp+hRrU2MuejWvr0vw8Zl2OMB",
  "Br7pFXAKH1OobMaIgi+QoSUewvjV3EhR5cWa+a15",
  "BvfbGbXSJrRBKZNNQqs6RF5gVV3OZuuEldpHmVUCnTAnnVENq2jSsB4HslXdtyo44JWO8i0n9CLc+ULo+v+W",
  "OGo+PaRWQfvVWDAUXIGdghvLiNiGkNUWmHAxpc/GvkBXxJrP4oLR59a59R9N/Cuv/gJp",
  "DzGFEHEqEvoaHoaeJ2vOKGZIKVvfOw+QSJUoS0NJWBduWQD3WtQPXk1YZTiBetLRfI2KltVMoHNutRVbwb9e0OTU4W8O8ctZ+OBv",
  "PQL2S5s3Zthma5leb0nacIQYfEh7ks33tLGrxISQ5SpC6gTu",
  "AG58B+UpKXb9NV/oQD9EQxqDXWZQXgdqY864ZyrFZzaWZ+0WaqxRrERwsF/+sgHEvV93xAFdzv/K4Abf9itz",
  "G3ELHOVUJSSHPAOEQlGPTDoFeoyTljMim/q1n6ZkpTM6uChQydNS8655+pSC",
  "BtdPCiTOEQyOE1OBGVg5HXA4IaI+MXJnOr3wO6fMYvlNcLxldakcdv0Uj88GlV9snlcHpeG3w7eG1d+v2ooB9Vck/Dox/yYn/5hS/6pX",
  "BfVYFDygFO3BGRvxMqSkMzGbSbkXTwGQVq0qXJGibh9ib/GCgtcJlDadnWlzqNPsrPP+ue0ovJg8v+hnzAKU2c8z5M/j9DtC/q3g",
  "B1Z5GOKnGVDoG6xDIuIKUEV/XhI2X9KLZ+VNrLCp5HbO5+8f78sj",
  "AumdE8THUwt4WL/KZVDnbY4wfKXwfW87hDGfnqr2qqQk2T/M4G3P5bY752gy6PyW+PjV/t1N",
  "CyEiDnagF2EtGbbgK0d7PgqPbtdFf3uWgkJXgnZihswMiY+1lMFzn6dDoITZoeC9xc4vzPWo2LyZ2qKy",
  "AdyIFzYWIENSLbsCMZLUQJjaQzdxRUygSJ5dY62TZ0Mrgftcl9lEozKLrrQissOPvNouv0m34B9F7Qqv",
  "DjBtGn+GJaYlMMXuTd+BZmNejU9HlSa9ng4jnj4rtGJ6vR5CwJ6wzJec1rte2HLC4UG//OWj",
  "AnQeBzH7CACnDVA7F1oEHrZVQ8kORNRRYxGzaYG/aYgOiObjjJXamrHcnm9tqgGZuoDIwAMWxgyn1tyQ/8K9",
  "BF4xDcmfEmEyMEfaQm6LR6LMUc5IVsWQXBO5iG4LnYHZt6AvugWO6oco7Oee",
  "IwsFJqzSNJNSOJsKPGl9R8wWSnltbraxh7ZFjkwzoK6fy56zy9hG4HS16AeF8e88/Q9y",
  "BxnVHJsDHXGLXl2baTl5bF/JdgkCl98zoDL3qAJ52KVw2Vgy4Xsf+m8H/vWz",
  "A6ouHZuRJThxKS2nK+8iMu3fNSlRaxP1m1Q1nL+dprxaty70vF20vuGU1DnS5Esr6boe6+AB",
  "AclsCezXFLfDF058LHPQMas6NIKYbeOHbemnlQxAmnXrm+IfoUfcp7Vmu6QyyEUMyFlHzD711Fsx1VMy5RAy9pCp",
  "E8tRPevUPgb/TUFbTc06XEkLa5K/hiq+leVbwCwKyukx2Iso30Iv5sO98MPp",
  "D9/5E6gvFarKFcykKnapNWUSWnrQXw6GaNd8dzWHevhzkugqsaj++RLk/SmG",
  "ChUDD2OTHiqGM7WOP+qkRooVUsJjWD4Odq34hbHbp/jqrJfgtUsnwO4+xKvcx3gCySyC3pEe4cTj6PiY7E2B+jSM",
  "DKK8EOZRNHbTQDOLQD7qU6w3WeP+YpBjjF3Dmbid4Hqe",
  "AFaZDFBqMsIKUt7PV3oYXUu1Yn7WkuVln5Ccpr9NyJS431UQ4JTp40Ec7K9V8QO29xbG",
  "FU53KOmWPk4RQJq2W2LUcXIZhZA/k+HhlwVdqIsbxJoq3HXm4ABU5puB/rv5",
  "AVfgIvglJ15mMcOgNJr+QPNjZ1kOe1d4gTfUo1a6pBwq4W5p533O6E7G",
  "ApL/C3cGDOoAK7u+LNjdOEHiOsvIPQJRTVnBTm8MZS/+f4eCp03VxZIO2KOO3ogG",
  "DUjmHdd9Lh7ANlteSTElTvEbXybsaO/idwDcr6LRtOui26jc/u95",
  "C0PDC3jnHPPLJb4mM830Nge3XBjsmcFHmxt+oXRAqS7j1JV31O4A6Jq58Tbb",
  "BWKADLsiFh75GVeUP9CES7eJUIecURpFYmSHdTGkoGJotFnztvQiuLa90qY59bn7+VDE/njl",
  "AG7/JU9KPqMFQkSER2qKVazWXJD9bJCVcJTEcOw2eMSvkeY3oigmo01Gprl0xvHhy3OW3vsv4K1P42hM54zD9Dqd+h8V",
  "BdWCCDllCt7WGD2kUETaZ+Soc1slhrg/wLfZ7dLy78p+8mx2",
  "EPf4Em/eFOGBJ5BuNJeFXvieZVBCbcwsfKVLnXIzn0nGoIsvxdfrzd9tz3JQ1DWV2EYH4YbP4k1M+Pgw",
  "EKS0IKuQNCESRAEYSEQ7ZS7Qa8OLf2jBhTy5i0eekGZ0lmk5mRzIpjWmr25/s2cG3qBs+Bdw/yoo",
  "MSOoNGmNO7hyT47qVFfTVMtMXz9SZ0KGeeF9pYPyqtH84B6g5pnN7u2X+OCr",
  "ExpjHJ9hOFtPSOXVV8Jqatk5a9Gvdt7Emdmtn74lsbshz9OR6Gtl62vi7Wkr9KOH/nFC/+A2",
  "EVEAE9fqJMhfOee7Ozn5WBSIZZcWaPWGd7pPjq5Tj389qj5uwi68w89H",
  "AIdlI190M5yDPbq2XKljchA9iG1mnYE0p7vsqQ6RxZQWxl9ayq3o0Hzm4MW17iWR9FMD",
  "Cd77EMmYFQrxJ0tSMH3URVr4UF1AVtbBVyHvY2USaJnnh1+1iHVyx8gs0iOO6Abg9ttY",
  "CLp5CaVNC/wKDoasEOeaJPGrNUloT8s4ZMoMZWiofL2xl9WXn2Ist2js4Z81+RCW",
  "F9o2HIcCNSisPYqmTpKuVL/zXJNqXpRGcD3ulVpllsKU6J4M7Y+M8QYt986e+Lb2+UpU",
  "BZLSCBVQDK2JFMeDG1KIILCuM3BXYpsggjHGkI+mmdjnoa78sjYSttGpzpciz6Hm1VKN2cDk4DcG43A15ZJX605x8wbd",
  "ArbPA88NHJM/TGrwTldmT30zU70odVidfLUUn9aLqrEPsmXLwC06y7/95D6Y6A/W",
  "KnYEPMMkUUsRYyl0d7VAhHQ3mIDfradY",
  "AD72GLGeGM1qGV6gHinhKu6nL4CgM9AGNq3aO1w7XMHJXfTvkMEqmBxMqU2Hqlfhqy3ErwDL5hiH8VV39BUi+dE6",
  "HFk/HTX3NHYuRMncRTqyUHWmUnipc5czehuvgxWllF61sCM9tAQ8xhijxsPl4v2m7a95",
  "Dp8SEZG4KkJjNvF9VEuGVHKrVsAMX33cb0C5dT2Xeeole1OPjzWtk24VmVO4qBo6siqh0Aqq",
  "H4pfPpuNP1Z6UcgrUj0/XAcPY24+a/RXctaLlnsJo5+rpt3axFINxJmF73w0",
  "B96WEJ5TEMGEF2Y9LlrRMLANMcL7Nq57oHIkpDlFpaser9Kdv1OmwuK0yy5F4E9s5Aaz9ma5",
  "EjbqFPvpMXKvPQGsRSf2TVkcUE54V3o4a6qAbZ6uddKidwBFgWFylB2hsmU6wgOrwvk/x/o92KLp",
  "BMuIEsBxEwfWHIXhHjRzJtrjKX3wOlyoQDiNUNmHXcf5aO89g1jPojGbu8T6wMu72N1A",
  "ARQjA2SOBUqmC1trGpIqNDRFTmobbPCkiwNDnsRpn6UapN4UsJ59twEvuxhwuymLxGSz0fzw1MRU6Xh+9oaw",
  "DLp9GVbvHjAiHjhSOOZdSqbAUI4MVv4YYAjoijj9mnc/p7E+uK+fuL4ay5ov4lmx83h697tm/Pdw/6kN",
  "BHxCCIKRFI0JFqtbLXVeSWR5U2JnW8YUb/A4o0yhtyJAxarrzc9b4nJs+h5w/mPC/yXa",
  "LoxgNNY9NNriN/H2UmvfXMsFc1IBgFlJlIWDw7fL7dJN78nZ/EQe",
  "F36jGhhVGl6dNtsrO/2+QzWFQ0rlgokenu45wEST1DTw4Zly52Ar92YL/twD",
  "Amr6Ev0NIbZ2J4JvQZoRT63/Uk8uWgnmaX/3fGl5iY2ZmPXWupQNy/DJzPRezggg2LtP4X4V47Xr5wCp/gUu",
  "B/xFDF3jGXVnLrYUNGjoRrS/T5bRWVWeWhgYXH7sXz6tYxZfacpMjeGroGzSpN0Us2yYtGsYtMMduuCAzVBi64NJ",
  "CC54HhPBMvKVM+W1RTXTatiUbr41iWRZmdkIu9IXw1l0y6byzMI40+Dj1i4s5Kr6+MYa",
  "DNLjPjIAaPTha2EMyecf/8Fz",
  "AIbAAWfYImV3MV1hM5veNePBRee1VK6MVeVsdROwjw2+kc29o2UHyMSFzYKR16zr2yBt4MUQ8AhX+jbW/z5A",
  "DmTnFT29HH2XTNEZTlJIUi/7VQodXLEfaeTob2WKgwObnezAvL4xyDb+z4Wj5rCS6UEs7eqz+ryt/QFe/Q4o",
  "B74qF5cJHF0QJYspSLrJXDfdXlxRZxVLbQfagqGEn2GHp+v8toF9ujvqy6fI1E1W4Z6Q74cA+cwv/vRp",
  "F9mRGbQ6IMNRK8pqdO/BkniUmTSJmjtFsJQW1DiI3uRU5wvl8FCn/NMy/Ovx",
  "M2+yNIFOYAzoYwn0Y29BbhmSbq8Oim4nkNC5tkJLtpoNuBW+vWRgy1Fn09Pu2nkJ7QFX",
  "ADfyDRrkDbKVM/4bN2jATyU1UUtpdcafmBFXntMMrBBzsmUmuUpXvzWgv6kl0J/N+hA4/gu2",
  "DOtJHORfIAOEIdHAJ9aAMfc8PgjjUdfpVyngYs7rbEyFeqmNkVzAmqgLoG+qqf3szZ7cze0W0LZr/lW2/9nZ",
  "AJ8mCCn9DofvDslTM7REXMEkdqyuifbYl90gnP1ho31tv2uO02y51EUu7trK+k88",
  "LjiwNHWJOdw0OuEfS8dPUngEU739aBTPglz/gpEHlFqMnV/NnoiurXN4sK0uxcJ57gMZ",
  "FTicFfqdJdcJKsHFM3sSQghWRpPpSg1WUz4ZXUprn3ntpZzDsFafvElm1KaY2dp331PG4bb2496D5/a58u51/wzP",
  "KUAtM+ToSsdNT97LX9rAmeJoqjzDrcHZu3MTyRRHy5hbzDSQ0YOc010n13Tx3tCT5po36pdG7UYR",
  "As2CCs1xIHLUItd0NJm0NwhYQFyDkmYsm8a4n7k0oHF/qSrJ3ww84E7H5je/",
  "A8j2DcGzE0iKIZ1rMX1xPQEHPnRmT5T0XWDHZTnqniFVr+th3oa85tKG",
  "EFEuEIEzH0zWMMAgMxscRuVtScxqUNxIXpODYudRZQoag1A+jEc6mSvun/AQqDGMxSlux4piz+JL1met",
  "ALeMBYaSD9uqImh8K0VvM8yqXNmKYWDBZeKmZ1e9Z+mac0BLe1LMifz4irKYkzLqn6R1q+TyrnsUtb+AyIi5y+Td5MJo+YqU",
  "GVZKGX3JUI1nXe7IXsT/Y1Kqe3SLtHZSxUKZ0jLz0rDI4wjd7Ujn7ht/8Wjr",
  "BhuCBwUzFIxkGPsVQh++SiW8WhEMZYy3bI9LbhMTgrgbg5J7mzErn5JTpwiZxZTZ4CEE4c9c+vuf/k7J/mMd",
  "CDgbFl3bQd6xQx1nZRWce6pBgl3BpeaFtPJ2uixbva6pyDsy3uj56lCI78k0+L2K",
  "Fk1GHSmCKS57MO8uQtzRVymLiqwxm+5MoInlqPGjvSkmxjFp1wGL3KWq",
  "CyRBC/NJE6LKGU0XLLwVQjt/WQqha8JBcmMbfigNhO3wiMdLmXm+oAaypd0lvDo0x/FbyQl40NRp2kYu3p8i4TtP",
  "B/ugFYkxIxmbP2O2UZZkZSKAZVvAd7OmeKPukS+2q8IXrmUvxo+29K7t+uJr",
  "A3ZmKRwuSqggV4wgXPHwatfvixIgn7zbo9C2p2/Uqw469KI9+aL6",
  "FdcKHXhlQshPUKXNeBhvj54al7+Jo8BYtsBbuASBuMPC3bhd",
  "BknDOzsQTt/eeu/ehIhivukqwMOr",
  "LhiZMVVhNvDfOmZ9Pf6TPwsQRjzyTEHYXHotZS4CZ1p3aZwGfX+BjJRglzJlmJfKmrG7ry5900QU7ay/+NXw/VTQ",
  "Gu0IIrRdQKI1VYd5XDc4YSmNYWXyil1QjSfWmZDKoKJLr0NTwXN40K904YpI",
  "G2iZObsERBg0SF+aXdwDZed1f7DAlVNeqag8qgMqqg/atXtv0aua3ZF83reI5wtA6vLB",
  "Wi/ZZTrmj/KZkEJHpgzeq4M3tploup9N1ph55xL9",
  "AR9DBjSHNbH5QalZQ2gNRZu/SfgcTlYcVAjya+ZZdcX6n9VBrezAsmSBuH1Ly76z5xIh9fre+Dbs",
  "BE0PDOqkE33nH+zpUWq7WAgBWcCGZYEgdUmzdWEmi2K4kVwblbA2tpzHuL7yxq1p2Dkh42An8uDj/9k0",
  "BoL5KhYSNQG4Pc5WQrARWBLNZcmbjCb7m9OEtaZ10tt119Yy5hc9+k6X",
  "B50ICRXbD5rDKgwKK/bZPpX5Q7pxRHpxUndfYxvqiK8QjXiQmFvsmXRCnRUdpxdhrRxrx8mG2TVN5XJ4",
  "A7hcIBBBLAKmNmeXUA3ogrlFmlYGvEjB2kmP55rJ/wwq",
  "CC4YCH6tCeGKDqTCJxCZN6z1ZCvRZPyRZ1X1eSItfFGaqmeiyCIn0r2h5cXA7Ndx",
  "AszdByEKH/SVNJkPWkg/hYE+qT85qyu3tLeWv69vxEig0lm72GhD",
  "DcEOI73PKYLYM/1GPDXca7tfcMN5dd5giTWJljYyn+2nsyYHwgJh2sK/3UKu9NMJ",
  "B2EOER6GIlxwJkiGKpntMD1bOzbUSCOGTkQtUGDaVqNfYuasdylGebYMiF3+kXSBrbgpwSrpx1UdyyR0zPKL2FGH8pUe/2Ye",
  "ALbnBYXtDLOuGOSGM8wFP5DRYr1ddFeTehiQej4bjmDflXoZqxp9w3uWy+Xj9WZK+mb9/mfR",
  "AeUhHOARSkfYVnE6Zi2caTXgeIhwf2Pjf7d0kx4VnFbwnS2Dx4/vy4AOznaY2Tg22U2z6jOj7hra9AX/",
  "AExABRppEFF8K01QSiUXUR4dWIeRW04zdDtOdmA3d0UngFTlgkcJgqsfn5GuoR65r9Cbyd2u1/HD4c6357Mv6J8B/mJ4/ySQ",
  "CRotDz2pE4jXGlchLVZKOk1yOpphSKPSWcTAZ0ypiBmlkgbpk2snmmtsmtyjwpTi10x4",
  "EGgbFHsSJLBOQVU8WhOLj8gJpbq20RzJ16MJ2ICp46A/5jw+6NrZ",
  "IbUsIiz4MqseQT0wShYaT6y1cf4PgobLlN9g17Cq7VAb+1XS",
  "CgV+H2SXJm53oMAOpVCKtjh/7Yvx8Yx5",
  "BhAoB3fIHUAPH2GEMztKM+RrUY38WUaBXPFLYnYTYtXDatdKfY38m0VotkpI064R7OZl+n9j/LXo",
  "DVI+HJLSJxogLeR1MRKvN5KPOpzeUZJYVdUcVomghC1vlDdblU1Fl77kssGAtUAl2CAW2SAM6OGj7jNA",
  "AWaOEzGdL8rjNhWYSj19ZVxLck6QhIe9jEDooDkfwHS/9PJB9PUo/zz2",
  "Asx0CE/3CTKTFhDLT64kZQYtdRtmfMDyfUbqgSC9rIS5r0N32RxC7awa9dU2",
  "DJwiEyTxHs1zIrO4JKFOK3WTM5YNXDaTZqg4cv4PiF4mkYZVqHsoqd+9toMWxHls0zx48CMJ/hV7/nCQ",
  "FESMFHTFQF7VTl21WjqwX681mjn7qrZtyAkc1B9B1NvX2XWw3rbj4L/L4rr95wqb",
  "EcD9EgWALnQvM7oBOKQVPET0QB1+W/T2YKx/a3gyh+LQkXAXtpjDuqVux4XpzFdszjYF1zw42E84",
  "AWahB1m1EEXdEdzYHvnKM/zRet7ThDsmnDd8nu7JqnjIreXmsmPcw6xi3m8L4+fA8kRX+bq7",
  "I/WWJpZrPpHYQi7oSTtsUoZza2OZcEBmjedTlWzMokl7uBxCvT4Mvpnx4rqT+fhB/W81/lRs",
  "BoJURPz/SUWwSlXjTQrjYFygZcj2ZeXZbB6Pp2iUsujy7DzW8tK5",
  "DZewFoRjSD1EU4ySYxvTZUXDbDw1cPBMfVuhfvQPkNKJq7wsrgNlzfcZ1BH65zPe5/fI70iE+O2x",
  "BRqiG+n7Ite/JnmbJ44lL97PQF7GYCvgYDx5mDRZmlVhn2muqbt1vEgc2yQl71a2",
  "E9+2GphOQHc7TV9oVS78XkvGZPvsa49eefQefFD1iaGimlJhnVk2pesi0rz83s9J9NxC",
  "Kt/2V59TZVKnfTNxfViifjEnjhEtl1i4o5CcrAv9rJlSra9jsr2EthPCx55PymDB1aPe2A1d2lDm83cb",
  "DcBpFE8NP5+IW2AYfk4sjSS/n+0CrzRcwgG8xDEAxoyH5iqr7LNP+PZY/yNV",
  "EzgWIcXiJlYdSKKLTKUSUp7ZV0YAXSp4YDi/YhPfcZpKeukFi8eZlVWbrrcrundk0JtH0WH/0cuC2FDi4B3H6+N18pR59va5",
  "BYVIBpq6Hw57Hy95IR2eZeFcaWDcmvfJoKYusJx8tb423KAt40KK+YlK",
  "BWbeVTmfZV4pZlx/cfskfQXGjaXSkx1wnSze0oaR8Tdc8/6t9c1S9fdI9tQK93M9+QYX/EpP",
  "CBldO1XpQmE9WIbscbtIeylYg40amJFDrOzytHSNuRyM2+3C5VoI5uPj57KK6Nr48U7E9Pse+Tuv+/Uz/mHT",
  "BBBED3lmIFCULKbcMyrpTg7ZU7ViU9e2VNg1ZMy/ZRRSadqFbugbezVue1KrfGlbfl2jjJgTqNL1tPEsutlO0MCl3uev5NNz89kA+LxA",
  "CcU+Cs2pGkPJLZDYMw2tOlQFbGFDhUk2rXTZv0cjxGBh3kFO4WXX5xuT",
  "KZynLmqsZdonZwaWbjPwj1x+oAVosd2VvUEXw90uztub4YC38Y68",
  "Am2MEWKIGGdxL3AFN8S9QrpeZI8XZea+gpy3kYxCpU/lqPonsptKyF7jyTJA2byB/QfL",
  "BrMgDHFdDnKKGPxHQ9hQVI9rYkqVYnVuYtUenymZohy+wdds1R2C1buA+aGw+n6+",
  "RhtTR8XWVoj7a9ekiEFtl74/nUVEwUV1yddw20cy9BcT9B3A",
  "ECJFFIuRK/xkMkPaPBubQe1UU3/GV8gOXHKmaPe1g8oBhIcYl5FKmJTOrmy+tN42uVXXxpSp58rw68wd9PGc/hRR/zxR",
  "CTHuE6CYILEFKWBIL0D8OmUzPcEoQRoMQq7RSPJQWVz/ZSy4anpCdEyNfIHBffeDlzEboQHGp4nluO9r1T0E2Rud7at1+JXe+NSm+j2V",
  "ColHCvzzIrWFMvr+Mz2ISRn7XDXuZEtNf3y0hxPiioq/vwknwE5LwNI810Mq2Jhq3YgB",
  "BQb1Ge7oGqy4IB8jOA1fPzoMQc/6UncjZx78hU0yoSzWuvg73/sW42kF5Gj15wn2",
  "EgTbHaKKLJnSLKICLk5PMKG/M5IrQXiGRpR8TooZWbg2X3uSe9au0xib1pcv2E6T4Jpd4R2Q4tUm6QUw",
  "BPWkBsuGM/wsPRlWRtYwXCIcYu2EZ4K2awKWbIGvecVGhpb3lIzSnks+owV5rqNo9KhU94Ey/bRL",
  "JvXhM4h/TA83UaoZVMYUVqFhW1HAXMkPYElga2L0iJATm/RynV2qnreRrzJBueFfwmdO1GXz59OB",
  "B8m1GUUfJ14pN2q7SlU+YFv7bpKCmeqpnXJEtJvTurJ0wo/ExqsB3kRl5+NW8Rvv",
  "DlQ7DtH5FcZIGrMNI47PJQjkRjQzSN8VY/tmbDuadmzflcYjsQW+vHXcy1qu2TQD9l2P+Sjb",
  "AEP7D3uMEIjUHLkYKC6dUFRcYCs7cUcoq7uMsDXhvEd3wuqi2LDQ",
  "D+pqFypNN6nRN7F/QHaWXHcPY49Wbb9Yb2K1gXRSjVr6liC1mlG8xk8qyCDd1DcC5G4O7rCJ8n8b",
  "P+zATd5Rbl2pfTLMfVf9idQtmc6Jo433vD6NysUC0Wef2Gb54LLD7L3H",
  "AQ9rDb/EFYabKyicXupXYwXqZB0wkuZSlbWrnmOkrzO31+CH2+1R7ISC9NG/+PWz",
  "ANgzAyK1CZ8JJBrHKoW1MDwRSeCkUp40VrnHa/ckb5/DufnFx1PT0UMV0yE36dyL8pPU8wlo+2he",
  "BnlFFRX5FihQGxlXIRz5RBphSm2kavmBa11Ya9yRiVXQnXoHnajansBmvDBJ8Jl3+DIn",
  "FPzjMFuKT937YuNif7YqgeuIkO5BkxzLo/99qHd+2Uxp4lWU8X8L9AS19l5S95GX",
  "ELTJEsIHNJGZWRroZtb5cJ/acUWNkbgKluEuoVhjqNopxy732iUw5/zV7wMu+dyr//f8",
  "Aoy4DCHCF0KzHIjwIE/vLjumMZ9xNHbPOpkXUTM3Wj78WmdBX2OwgwsWmmoipd+StxfvvrKN3ucK78un+xBu",
  "AgynIeajN582OQ0aOnXpOqeZSf+FS2IeTTWSUARGUlhebru1ddp/enAym10Nrfpor3LFvEBGwFoW1pVb2H9f4FBu4XmD+BvI",
  "FraaPfdwRZ8fXwK9dBxki1Njqcm7u5KK0u1u5mmT6Sn6",
  "C0HcC1S4M6nFPyp+UraaVtItjEYEmC86mdFspU9Ar7tnv/CIyKpAz+WI0oWJ7UZg/Pjl",
  "FfWcM+ukXgwnXxbZYgBbkqS5mzqMnClloqGKqxFCsVK27tba+aEL/DNV",
  "AErQA2k5BM7dOWjuVYinbGxmdg+jjVxujw5elYY5mvSbx0Eo30lH4Ikg9BZu+R3Y/tcZ",
  "EjWHHNZnJXv3Z9qXdWLRjUcDmJQpmnYnm14quTO1u8Ec",
  "BpmiDJLZL7XEZSwTc2XYfIEclIikoGcAof4Qq9U94aps7arQ+NQB",
  "AbJfD5uaHj5QK6OiP7fka59cc/wmkZAExHgix+8tyb442vmp3nw99DQV+mRw",
  "B9i7Kbi8MaxOZx5Xa6WDa/Srdz3IhuN9k4Ier625zPSs3/px6M73",
  "A1OBCGhZEgQ2M35eNmVSToShUs8AVS40VlYjYBdPYTErb0wNfe83h/8In5n2ujR4yb6y041E5wGN67Mr8DKZ",
  "BsrhCq4gENIsJSblLk6tPhSSP79iSJ86Uev8ZXLne88ug4yHlI2vw6sYxSOF8R8X8Zoe+Sgz+blx",
  "AGM2CyXoHsxrIztFMALlVhNVa2JPa8VTcWWrlHe5li+gl5KznV0FvOD/2+aS4KGG6B1U9C7U",
  "CgRRFOdeIQPuJ5MiNcRUN2oWR+GrSzwmUDkRhWFEl7Zptkmw54qc5+Kx7mZ0",
  "EF/HIIC7Icz5KP61OxK/PyVvTqAdZUR5aIl9cc+PfHYIfJmChvMAh+/Mnz39oH9mrXJa4XsG8TnY+Oxn",
  "CM5AH1N9IV1NIm47Jmc/YCqWYMcMdJDfi6BLjcSojrMImlQXqYG0sXg9vlnfzVs21Xle2V2q",
  "BWxJB/EhJIPnLpFNNCNjVCiPVrORXHGbZza9bg/ah0NJiaQ/i8cekZvKoos9ubxyxqmEye0Qyl4uzzkR0z/C1ExC4BLX",
  "ETi/OTWCRWVTT1kEVZVEZ7xzau0AjXVZn7Jcrp5Xy5vO120L4Awk",
  "AN3/BuNHCjMPOdq+P4BZQGF+Rb31YwVFdnSrjzkTmrgqnmL/rzMSsd48s+TV+PUO/lg+",
  "Dh+aHQHyXJ2aakjkfyf+f2kdhByVnXVrsFtyufkgvnR081oJ9Ec6",
  "D9Q7FtbqHRHIIxjBNWFMP6nER8PvSgBVUFF3Z/FF0UlM1agc2rWw52ub5/sX7/8P8XpJ",
  "DPiELEJ5LELLPUUuV6ZyZVzfbFNbdsQHfLHoiEsbkxwmoXPFqwsRuDiz1hjq2UvE5HWb6jEn+QTN",
  "AcfSBppZB/wrCxY2FmrdOceSWiHTXI6Qa9AobuM9c2gEgA+XkO8ImiPorDEIryYNub2Xv+Hn1XDS48+O/umA",
  "E22yMZ7MNVj5TaJVZtw1aN8icqpeesK1jJBSkezfpYbvsZH1xWhsyKAn3ta/4Cs9+w/J",
  "FoInRRzRRsyfTTTtTr9ookjcpOqkpykBvMof2H665AdU6Bhp8vCt",
  "BKQiCY8rSRtAWH4tYx2rbwQelJDirlGKt8sbu73Vyfol2lJc4sms9L3C/puw/861",
  "AO/0A7EpJxSCK5iZMkCZQyyYTuWLVtGIXDKXi7sJj6vUlZOkmxzjpU6bqyH7tNwJtt0AvmJt9F+g9mRy",
  "LIfUOSEsUGndXnP6gO0HjhV2jlfUmevummB7mznnrBNmsPdeuucPwjwaxn3E",
  "BM44DZ8TI1a4J6bmZIR7e3JSlWQctR3rwuKyw3o5xHNcxYa89V7H/wGr",
  "A7OCDDnFKjJmOia7YLj0YREBY786bvujiKYOjoqGlGFUmJOEnFJ+n8NGsAwdsOta/O9n",
  "AzEOBB/kBCPYE2lAI+4eMbcyNI6QRofJTSj0atdNkuuensytuGQous8kxsR/4/IB60jX9lsh+W71",
  "CEQOJxp+Kc5fK43VO7N0Q9xESi9OTU1TT4kEVHehgAeKjP0ukJz7l163zaHO2Jcg",
  "B9gWC829FVUpFra5GIVrRhilRpCQTRYBXxp+aON0e5bjfTQBiTkzk5RKlIsjqUXDrPpMruujvJMB1rsh4JMs/+cb",
  "EgORMbsXM8GGN+ZxRbq/ZgzVc37pgR7/guQBg5Pgipvooh1dpNJLpgx1syU207y02A7b+KHr",
  "DK60HTOMJUtzKetAOZ6RPC23PchcUD7oWgmZZQh9mmt2pyC7u+Z9xXeY2Gsh4weg731d+7GR/oej",
  "AGKRENNzHtvIIT7zIWwsNe9DR4ItT3slVLOPa2GqiTrRjqkBnUyonih4o0DYpA6QqwyttWqFt7jpxIVEzI03z6b61WRl4KDh4maj8kDi/ILE/xoR/37M",
  "AcDoB0ACCTRLC0cCH25uNtQ/TlmAW6PVlEOzq3jtufWJuyu2wvxo10p62Xt37caE8/KE",
  "A81VF3LaK+7lNKb2P/8lYjC+gn1VjzvQkIGinz1Y1Ckn3xkw4Xph69ZU+9qz",
  "IJ8iPnziQBYTQu7lZmAXaPi2bOGHb6dvc2G3iCevjKNllM7DlpOLmRBap9az2K+G8LYV8dmz",
  "EQkEN/pTRv60Xct6XzLkY44MaPvadGVwgBZMrIwlxoSSyDPO01nu2Kzb2/Pv3f1D3jNw",
  "MsQmM9nsT/qEfTGClSwUlX5smc0/0i2O2hVs3u91",
  "Ag+DA2LQDMcaG2JxG9oqIrRYJh1nTzhJaOkYfOzfmoPc1U9z4lyw/7Wq",
  "AHr3ARtuGJg1QbvfXJz1Xa3YY7SkkB3VnMb+o1k+pmre4LlH5/1b+isN+lPR",
  "EPq7IRuvI5AUJqX1QpWmavg3es8loLMuo9FC7d7q7xwn/1A6",
  "FOrJF4tAIOCHIoykLVNbUOItWQlMZVw6fEV+fLFDgpW7n1W+qiBL1EGN4ZLH5fVF8biY+QQo+g5Z/uig",
  "BQ4fEPoJFuMAF83ILITJT7qcWJzrYIQAeW880V9t0pt/0xsQ3qxk362t4dr46nMX9Eql",
  "AfT8AjqhCSX1GY4GIE6lNHWFXD4cZ05+agsBezU3hhHSvYj/zRbe1egq2Qab3Kq/4CqY8+/S+w8k",
  "AS91DaLQHKxKHnMZO1AlRRwsT3DFW7XHfZvjyPUi0D3b5HFI5Sg7",
  "KzuETu2SaQF+di0ZeutghGTCncgjpz1OqVOxvqIXxsuL0uwk1kN+4wGm",
  "AJNdB365M6h7Vry1WSnZWm5AXLVbYEn4aQnfnZWoo3GkqyFWrI74r8G82p6B4NGt8TZL9F77",
  "AirfM3oCRNF6To3rUGk4XxWPY79YaAkGcJJPgOximMSLmzlCoTQ2olG5pGKApxBpuV9lwCmlx53p7fdQ",
  "A8zNBM2TDpKkNczwObcQbGscbj7RgY8pjw0Un24koT9AoiPVr96ewyAdzpv60edL30f94ast5cV68UoQ+RyO",
  "ArdqD88ZF+YuI9C5PUkTRSAKWfwFXLjKX6w5Y5hGoTxcyBcD3hY33sTK",
  "Ab6vEtO7GmFgJEukKULJLLAzL7R6N9lTS1TRYxr7Z1QAhD6vh46qjbr9mMDfm0KboGW2oyiy0fG/0sjX4EL+6FH39lp8",
  "E36bVVHUa54Scj7slr6Xn+KDpRt9x80s3nrz",
  "BsaSG5wQJTmuJ5TcKbdyRs+PXKPHZoi6aqLzrRVkrsjXsWuxxmuHx0n5ySB+zdn14Lmw9kLx+MNH",
  "CRFPHjXZPt54VjwcXM3BZdbdhD7ihg2FlAT7n5isrhQjxPkFxehUzLKZ1BGK3YdS8Ztx9H4O+X7L",
  "EvzFGl8BOx1aTRfhUIGeXxoAfMIsg5NDh6uqjAnymQnMmS+3mqd0qXXtqmbYt861yVZY0VhP02m831p2+bxR/Wf1",
  "AEEcBgfwDqsKD6qNHWqiIT5ONboBVfJFXIaDblbDkqYfpA3rr21xu6E232Bj4mX+/A3i",
  "AA8+BxzvHFoUKw/QN2jMRD3cZQnTcIqMg3HYhY+niGBZjHAxq3hItKTuvsR7v9Tfx+TE10FU80uM+LHB",
  "CnygFGJFHVatLM1FMc7zO3KWRkSaaR8abI80mWyboH4cpuF4wVrD0izs4Ftk7K2i8kFZ",
  "B4E/CSeJLwsqNg4IQ/QFSDtrSeKRTWUUbYQNcrDwe+14imbMk64fmyu+n/rprMGgtFN+2K7h3pNZ4D1u43Iq",
  "GAWxH1lzZRa3adq4gEkZiI9Orcu2x7KfyHRly5AMzLUA1nRK4bmR4hmx+MXQ",
  "NmjVSzUkT/nfWqmZZylWd7OunGEcnx6tn7ESuFkcy5qE484+5Kzb9bUU",
  "AyYpBIDMCPqNCpzqDMZ1D0kuHNFvJTkOJ1LDKjQBSRXGTQmoTxUsUJoEWr3kbvarhXugkCk/moM3nkqQqQy8sQVG2FdY4lwL8Z2a/7UF",
  "BpJ3FJkBFPCnLuq5OS93RDUTT72cX7GEYwxcbKnyp61Cyerw4n5k5Wm685J9+ipo/zHS",
  "BN5TFvsHPXp5VkKUXEqnmunl7OJM8Pts9ESo",
  "AlkfCfYCF4qbPUPkWQineU7MgQfIgpUWksZXlxzQnX2GoJaCylmT1EDo8noh/e2F/uf7",
  "CAnpELtaEX6ciWkjlL0Mmt/WxAyxx/341Vs23TaN9M+E",
  "F90mGr+KLSy8NHTgWiQQYcA0ZUskaz4RcBq4eub2hIsriN7dk02Rv2x7xCRxy0aD",
  "AFpyCOsSI6dnM/GtRRuHXmd4a2t3dboxfmWcgAy+j6JEn8l4s2oiz8Av1BAs2LCL9K7a+nGE+w8l",
  "DN7bIYouKh1BWUsWcRFdep0fe22ChDqxmpudntRQsBS6tmIJxDwX/81r",
  "AJK4C15kC6mUHwNcIoEEM6fWUbtcWDIyWZ8VbZHQehnsgKd3g14RhBTcmOWEo3D/u3D9vhPr0ZIL0v197zX0+iH++kLO/0o4",
  "GgqnJOqGJ9OoWkqfbeYofz+0gOu9mzidpxrSvFkNy1vfzONS1s2h2Q6I2SmE3cO07far8+HQ9cum",
  "BMzuKrEfMj4NQEVuYNKBZJj5deUNerOvgPjxgq18nVyPn21/xjvV4aqI/wBh",
  "BMIyBQbcBxD9F+WJJSu6Qhdpmkc9nJn5nUKDsxXDz5BR1yhJ43bK94M2",
  "B6zwKPhYM5SFNI1GNj4ZNwDGTSeqWe9cWjx2cIsPj9Uqk7lZs+i3uCG20jkX2Fx62jFg2ydS3T8P33uS5fqy8d1p8zMB9lnX",
  "JSW7JrdfNAoTUCzkWN4UXaKHddKXfWGpmR45zxjW/t94",
  "BJIRBXUdD7MqF27qF5GsMHO+OC0KSHrTYtrjZ8wUbcfvcR63c8/0hSfEjvKckWi4tJPmwakX6x2l9IBY/+XR",
  "AKseCAZpMFRGMM/cM8A8TEYbXM0cX9Spmj8wue9Hv/S9z/bh3CwS47cX6yZS7Rip+ls0",
  "DS4PFjZzKH8gMcvEPNRxVmVxZ1ETaQD5aZ0AhAlAiFQjy6GH1zf+7g8R",
  "Ave2Dni+EltKFR2gHG8qIT2pO/yPRRPcShlOUIlagaOzhBq6jgeRj8Osmaw8n4XlpA1GxcKS1Mgc31++4cLu5S9H/xjH",
  "CQ5kDIpxHE7WMH7gPl3jRlgIWHSQZXDjlMSplj89l6WOmOAimd0nml+jnVJVq3ejrGCK3tyL+NeH",
  "B2WOCDkJEgPBE5/qHSHZHVYIIWfJK1FkNKWsh7q3l13Yoh8tpbZxqFb5qkg2sevuvldn26ku4Fq/",
  "OCukYtOfZl7NZpkFcWI1c04glGQ6lM15mo24xsQq0/sS2Qxe3pK0",
  "ADqZBUQuBwpfB+8yH4kJJbmyKMbnYGAgbbHOgNheglMykUvouh4uxoNIx2G63Nkv4Wwr76Q+78u4",
  "ARI2KAd7KoRaM9iiPRykSTVATv+8T/k6XOWCZ6ALfyoIjI+9oLC9tenStjFLw4gzzSNK7tt38l+a9JXP+ZaM+3mk",
  "GfixIhdLNQobPhLuUJlfVy+gWr0/YgkydQ+6fEbRhnRulba2oQk7puAzuebOuk9W2uVg4ltm5aGP7id39D2e",
  "APNPFJhcI6f7PNoQSjG0XvShaXspcHFljwgqlTsTn55LupqDzbOj4dtU",
  "BN2uCc4mEPR+F6JVGyObJqSrLcdlOxm8YBB5YJ0OZSGUbTphfc7Rflz+iUThmcXRtryduOfsuQ1AvaFnxO3a4/5S50lt9B/2+MmC",
  "TXiTTphjoJXdr/0WzbVI3ONZ8MYH8bdO8sKb+QcI+pfF",
  "DlC5D5OBE7uHE+DxFjTPGcD7LZNjO6MkQFMMSs81VwovooG/s3jR1zrM3qsa5Gbv++on",
  "Ff9RHTDTQALKRHLjSygyUr9nYLbQab/9grQ8jgVEjuXvkDe9te+T1IUK+I8u",
  "RRriTGvvXP3oZGewe4RDj3xan8jTwHEP9K41+a7y",
  "CwJkLv6KNM0/Sx6Jb6ZAkrpkmV/enDl4nTGguBB5vsUD8V0E9aP5",
  "BnaLHwtKJfWDVF49WDGNWpCua7hlgyK4om+trrufysbpzRjQ5X0879wq8pBG9A2R",
  "EFnBH4uxJX2TSLgsSwrbUrN7VRVwWtWIZTn6eIA5gOsYrIJqxDxv1Eke5iL66ezv9UdP+OHo",
  "A8uDFasEMS6YM2+RVBRmW4h9cKkRnuc8vff5xIYJ7dx48AXJ",
  "HWj8H0izIDk/IUheLr+YM22WOcb8UHCUWD0CexE/ibUvlqsVs07UykAC0Jx23sOA51B98JAl",
  "IZo8KPezMUHBR3XbSk7xUQFjWjvRZUbeeBM1t876xDwyyDND0MZX+jpc",
  "Ifi7SvW4Vub3bV2NddHyeJbQhQfxn+E5smCUs8YGw7j/35cm4+ZG",
  "AlveL0vWbpe7dmKxkWgTmrNesbqww0cV5r577eKj8aXC++Fp/+Us",
  "Bo7xEwsjGABBIQryIVngVrFbWLSAX9QEZdWTd4KQiUcdufBcw28oxPe71ZdR26QW6YFC+X2B+lqP",
  "BZJhFOOfImnDVAsOVmTMV+ebaJdkbx0xiOSvjZoJjwg1kFYcnSEVoGiIsVXyzFkc1x8X2UFF8/Lk",
  "AD/SCpTkDngZIT0EK05xK1b5NfnlPrH1QXKAQcklXj8vZigbd//Ehf69ijM/jpTMpAyh0V0k0Zwp2lWH56bB9Pef+CuZ+qBd/xgi",
  "CQ2/D1/RZQiJdlKOekaKfF2Sionnq3b+yOaM1FXA1qHm10AK4RKA4n4l+LB3/VxB",
  "CtjENKUHmM2LrhRD2HB32HQ73spR",
  "BzN0Dk5LESVdGY3CNSzbQALnUuuTZvrNfF9aiaUEjumpmo0Tn/mfrJxD",
  "ADueAwJFEQhlFDX2Hts0H1gpQE/EQnAESZk3g0ubiG+Ejmd5kYB5lCG0nmimzInZ0e9d1nMA4Plh5Q+h9vEE",
  "Bb9PBqdXE+XrFB2NHkgeKmq3M9f9T/iVYslVZ59maTlhacLhgYsAoLAYtZ69uyh8whQ13VZ16X4G+nL1",
  "DADbS+sIUYXqVn0ybNZdcSSXkiU/l+CsnTl7pT+Pukq+2Vmr4lrB6j7K7ibS+nCA",
  "COPQDPc7D9nGIMRmIrg7JwznSjEPXoxIZv/+bm5Th23njgPVkvMzn52mtTdi30eM4CxX4eWT55WP578n/zCI/+zG",
  "CSYlEUHxKCCqMIrqN2NVQJ35UpiHWuRsbBdrjYg7mPz8mndkqu1VsRK6u3kavDiYvSqKwF1E1VSr5sSM",
  "A3WbB69REGSlGWQJTf99YG5RbM+TiA6KjjYwmwM5vBVW2Iyh3Vj56XHA8MVi+hwy",
  "AYEOEBNmEu8WIbm+L2DJQFJnS1TgYeVHdzKkmje2mra4t28/",
  "F9vcGG6LIp2WNBiGTboiWjUfZJu0azzHhInhh257j+JJnVAtv2sxxVhx0uOk5Z1s/4Cl",
  "D5ebGTZgGyoMHTQNLNTsL8R7M/BjTyzOWE+RWjc0YuG7ZXY9mDPnnj91pqNfrxpBtVVFx7/azsZO1DH49K2Q+otb",
  "ALQEBtjZMuX0Sbx1VpWYfL/bgi6xiK67lMwEllD1zKIE71Aq",
  "BLWaD+8+Gj3aIJD8IVzxPt++P0DaReVdSkl1TnxzWDDogXOBlG87ugLM8HVI93Ff/hUO/0ju",
  "DkBMRpWwWtTjWtZOsvc0tNZWtVjCuIAQ0Jwx2Sg67aPO8+CG",
  "EmiCJhxaNeDaPgWzP0w9VpkcYgMgaOXucNAXfTHu0apk",
  "BER3BZmrFNsWFO/jGLGpI3kUNTptQGrNecq1jGM4mkXzuxJavYs8xkdX3sLb/Lyv",
  "JM9AOoNqO6zSR66RXADuXkj8h+jljNEbmcLAracx2Fsw54MJ9DWw",
  "DKXNMLZNNAjJVFDIXQ9kXt6Of6SU6V10",
  "DjRREFEGEHk+JkVANRLAPoxgT1eNVq3+Y2podYqZeXMPk+e0pi4d2Y6p3zwp4XDr",
  "GVG8GvHpSmHbTwPBX9NfZdTudSrddhg3fjV/p+ZKujTTxXdgyC+F2a9n+Xzc",
  "BQ3VIXlsLjriNUx2O6ozVWR4ZVG7ZfYDZ0/JcLOac6JwdvN4i7fKjTg/jZlkr1scvuZNv/Rrze+g8/I/9J6z+Pmp",
  "DX+LDnd0EhFYIJGGJePTMg14Ps+6SB2AaIyPn0nyqbaAsyYk1gau2lTi7XGW7gDE+Bjp+njV",
  "EoOnFJjzHEIAUTYZZQfkfFzthoqCkd+Rml5ZqmOfzxkE04LS3ttB6rsI8pyq87vz9aFA+K/S",
  "CDUdEFxWKuJKM8kqNqHsR/vdTx40a9MoeHxEgqRdrKVKwM+Q",
  "BzLPCtqcD23dGtb+M/W5SytIVv3RXi6KXvb0Y54bZvoobQRCb4LgjTC3n/j6t/xq3aSz5rPi+ltS",
  "Cq0sDjZmEtIFFghYLpeXMEiuMoYVNm0vOBLxQm9fUm9QUqrRZnaRiG7fiWdD3msA3oO45kmk78pu",
  "BqayPu1pQ4TQVosxZU64Ze1UZ57Bj1X2oK9zw4bp1ROD+ZVC",
  "IxcWOf9IOkTUWrv1W5aHZWohiusbjwKVlFOKnTjWokOjo7dLq1slspoyuLq3ujRJvaSHxhb8xrmry5vJ5BxP7cjc9Aql+RIP+m/b",
  "HIh7IN+/NSolSQoOdciUfuwDzxvO0DHh5fMC576C",
  "CutCDb0RGsPPHOTCMXzDUoy8VwOeW9O7ZIGuZSBKZTy3cregfHVTiqGoi9QaqDU11EZ51VQG2Msz6xFC7UJu+Mg4",
  "GRYSOxvIPBJ5XQ21dx2GeL+ckSxqsKZ5smzstD4Az2dg0XMI2IJa5fZY6BsP8MS99h/o/Hqx",
  "T/hBWi2dZxKOgelolWTmsemN8opl+RO4",
  "DSFiHbqjORgFSGzKTzTVUsM3X4AnZJsPZ67Ld/RXgdpaiSX8uekFuiugykcV5npQ",
  "Br8YFuUPJGpdLR/SSn/hWCV5YuEWd2zinj7QpK76reQcuHPBwG/F6c4U+a2o",
  "E0IJE6yiH96VSi4DZ+DPcXrvjKhZmm5dnVE8n3b1rXpj9CML",
  "CwoSGq5uHO2ZOGptUHlKWDBDYe5EjdjLqqp+t+8Cw2dgxJr+59bo/0hJ",
  "BbtjFNjKHyeMJ3ZTOTOpOw+/Rfa0SbfmS87SWtQ+ZTiwdp/YfI25qKUfr4rg2SeV+OCe+fgw",
  "BUz9B5z5FacGHdH+IxgbMmDRUBJjWR4ea6v5dqfdi8qznR7ooMOKxZLiyOkG11U82KRi669k7z6f94Gc",
  "CBYZF0+lIDf1NqquXnJaZcCnZyr0b1UXeomHjGKTkFSvmr06pWLAxpPA4AcO6cXt7w3W",
  "Gcs5LJhWMOShQ1LAafWfeoDYgdfAhEzJnJA0oDyOrq2Vsf7xxY+EzLH32FqL20SC620b93Wb",
  "Btd+KYZXUlXFVpoKX236X5NKYcWKYvl8fV8Rf/hxjMNsnghknlc2xi+XzoTi0y/6/6qG",
  "JvBTTRkATsFcVq1ZYz/hnWmipUROtrjRue1Xxjtuy07Y3XDF4U/X4eN69Dtx/vbJ",
  "Bwg6E+sGGK/nGVEXSmE2UEWuVrW6X9K6b6DYcqM+svpIyEvZ1ZB85+9O78tS",
  "GFN5Jch5MXBxXqDwfKcGpRM/p+pCruMhvvt/w9lg2T/7/t18",
  "AnPaDnbPKD88MoYNNfibbtd0m3fvoIUIuivzuj5o0xdG2LzI3qz4",
  "CGI3FzZFJBPNLbsxMZMDNGphQIKOXS5OX9LuZqa1bpwcml20zCue5pqh9x2t+FdF+UrG",
  "A1SADL3XEyDmI8pSJGIUJX78KSlFKw8xYetmhIlVmdqBmf3PmuQVprh3px04roQey6hr1F8d2HLx6L+U+g+U/jfp//FT",
  "BzIqCADWGc/kKSTrNCjQNSuRNmvHQb14RmxhUN62XvZPYxHiZM+fZne1cH4ccLnHnm+cr1s5tCK60a3k8Pwt9ZDE/8Ls",
  "Bnh6LILTMEgJM51XVFo6VsW/ZoFLiG46ugW90e4T69Hi+vlo",
  "Ji+SSnmcZ5n3b2cDh+MHlPeAoK7OpwEZw5gsyM5w7vLh/ud+",
  "E91cGKJRG6RgIUf9JVTzM/xIRZ9XSTLBa24EfLRhgPPijApPl99imbk1sJt6t8Px0+bW2PRA2Vhh2xxY6JKv7COX+Wb++c2o+m82/vXi",
  "KXEMNSmAR3XxSRPuT5IrXZDJbkt/b3rVhGY5m1Rk0kfB46lv7w8m+U+a/NSr",
  "BQHLDydWF06rHBSyHvA4JmxWJ3qgMatpNILHQk/MZl1Bcrb7mnYao5R4wFMk1VNh2I0g7z6i8tJw",
  "GoaBIHrzK4IMTUGKUTX7bNExdME7iRzMjQFCmOwrthbtxkds2ItX5S8754tr8MQY",
  "CdZuH5cvLat9M6uGOHcIRQMoYFNSaNerdzFafLbwiTdDm3kgruK6vRuexinszubu41mc",
  "E39HFIRQM7W9UsKSXW9fjbK9oN2Jq3PmsBSBs6DrwEQ+w0V80j0v2HSb",
  "DKLrIlVoKPAgNHcCQD8ZVjGdb8YremEvle2soHkDody8za2H5QMD+a0D",
  "AFbICzqiFdjiIz13Je2nK1tfLXBYP9akR/M3bGV+bHhedDCYg+FGlMq631U/4JUY6xvy",
  "ENaMI3LPQQDQfqREoIXcpWyFpckUtpm4tqDAv1evv95CxJpZzFNo2Jh/4Nc16iMP7SCM7VdQ70ZM8XGP/Cs5",
  "F2cRKVXAWtOZZTgLfI0UhWhcnfjY4W6Y5v7L8crj+N/5",
  "BU+7KjPsKnzkPQKARkUcT5ZtUps1VpqGZVAxkSBpq+hOvYvNxNGvz6S50vbh1uxZ2tMF3og13vnT",
  "DNmLGh7KH05PZypPaPARdP94e3Kml2LJmf3cnXsPtdO24AZp6qbX",
  "GGpyGXTVG9NMZ7M6chtNfgkOigxomcF2wxz9+eH+/EFb",
  "BtbZGVfDGb6nNuhbURp0VkcUd39jmRjhqQ4nrWkXrv6XyYg3zCIiz4cQ0apG0y9V5cWy/0dW",
  "AG8uGJzNK5qdN/OoOOPWXJEsYwE4caIed6b4fLNmnWj9o0114K1+5fcU9DrM9FCN",
  "ArVIBFqoJQOaPlFvUEUJZ+TXfKqqfxowklAovRbX3+g74QT55+6p7dMh78qt",
  "EGo5FCd2IFhLK19LZVBxfKV6k7gInFoGn0n1oItepRKa2Cxs4YE44Yb++Phf",
  "FpE1IwvQQiArXUfHfimGsXeqxiwSx/LU0HTP2FgC2iYd3qCb",
  "A1mlB/0ZEho5Z0K1cp3wiMrBvyMJxpEvywMB4B7P5pn85p5O8AJc",
  "E1psFyNxJSdWP6BaTSEHWMJDXaEKatlogYaPgzKdleCEn75UoPgkob4PpPdOwM5Gx6j95ilI/nFx",
  "BFhGCAAxPELZYxE9aPW1aRjvepH7j39snm73oVUpwUhX1iY+4JWB9eo9",
  "FUPtFgcOXKmSiCPniG2VjRkMls2QnYFjr/rct5+5ugUYvcNG4MXk4byl59cF9FMy9Fnf",
  "AkRKBRCJGhbIJxvZUF1vZS0OZgM2Z/09affcgYLdllcJmhV2oB+Vr9Ges8hC0UBd6AcP7hQU",
  "B2LmDobbE9y3FuhKGYkcRJzgSu/qXSHoYkz5ZWjXdeMhd1BceztYfL3git3yl7yjnzi5oOjqqxmevOZP2Ve8+RDF+m6R",
  "JDQfNKpFNSjbQsOSUEpkg0CnjEwCuxeg1x0l5sB6+Lcl+hi7",
  "CgETDvOFF8L6GXa2MU2DMarENawCVATOWpJuZ1qIdZdfmUhsqVPotFleyAtA1VK84Dc16dbN8O4e9PKq",
  "CasoDi18DmyFEeyyE6UBLu2VLwJENWwpPcuzQqksSBc8TUDlUG39V/8+ZjtDcXFWiv6qjdRon9a6smX6uaiUxzIV2Iqy6d5Q7ZSG",
  "BrmjKO0pKnYzX2/JYymjZPEsg8Q6i1XjqJUi/65Q/9qt",
  "EmJcHioQUEvbVTqTWj3pZ+a1drhqk2Mfu1EB6JVq/7n6",
  "AwH6DKJGLepxNHZdQD50QjeRRIGZTsQpUHXVUnjYXnVeac+wcSISd2GjmxrdniZhtARrxsQU",
  "OjLMXurdX34LZKD9ZVXHdABOflmtg46/iNfDo4sOvYrY1oo+/w2j",
  "BrSOMLMFNjRlRDITUzRwpTWqv8DXxJm0x4Eo0D2r2fB54Blz7vYA",
  "F2ZsKULILWS2McMqNJqIPLqIQNBVbZNyiu0WoHJTrZz4uU2Nu+YGzz4E3sij/GUh",
  "B+W6G2YnJGWXLzHJPQHbTVlLZRutct4AkszclB3QnR2enbRCpeTTx9nJzFDy2KMY",
  "DF7cLh5KZQruaO9sk41xlk6RxABCyqwx4n4w8/u0",
  "J+d5MBhoM81+Q+YTejYwf+iPhzMtkwQDmcDRmeNXnJFNn6VJp+tO2Atj2v9l3OoK6yzY7Qem9Iqr",
  "DLqsGVceMBnLQtfFU2KJj+LfsUEYtdwVxSeGyygb0n0G2Akp3QUg3mu359uq66Qh9x6O/6k8",
  "AG6JCdCFMSTPOmiySwBuo0zQubGS1BSR4nKb786n+h6f/yYJ",
  "DLbpHjG0IUV5Lg3NNIDoVMnkVUoCWnRCczu8eJVHn49KohVSruvLtNTywc0Myzew1mfS103x2Ce17dJ878oI",
  "C6hIF37SMkLePvPBRZP5UNW/VOO6ZdYNgolNn0lQn7xvpcOzvyPEw2Np4YZZ8gtN/twy",
  "IIbbONpkbay2c8ATeuH/fGKAf7m6ghodhDG0hlNeoUS6u+RC1wQa2Lt+3j/v8yC//rXl",
  "E+hRNGkXR934UVeoWcstWhhHXz7cacp7iQF70vug1+oq8Y3y",
  "DT8HI61NMUzUM+XkP7klUAi1aI0DatjDhLIbmdk3n0Ri79mf",
  "CsGeDNMSENQ/Gjv8JJcGJqahKnhpSZvNXYwNYQuLaPUQi0SHlAlRmo/Une6To1e143Rx7UOT+fW0/8Gi",
  "AIbvFUNIM5wNM/8BTCHsT7DGXKjtZk6oahRdfUWeg/bphN6Miwxjo2U2pb6g4MU/506Y8F2n8qzi+jcF",
  "SytHT6+dUjAqWoZKXb4rZTHnaD8gaK/Hbp70g+URlDEYrbqwsRRRw5bi4bHS7eri/zCA",
  "BK2cF5c4HJnoJpEZK1KIPdKCQaWbXDgMYwksgDgNgqGzn2G2sHQ8tcsZt7clvNC84Z6//vSY",
  "F9nAKNatP0YXQvksWFBhc7wOmjt0mrPqqqa0rDxbtcmBty3ZxcJkyAqV3rhc3yn64r7m4uxU5wwU87LI",
  "A0KSCBTaHL+xHwgZILA4M2/hNIF9VeZvWHt1YKsPaWT2crWxiBXIk711qDLKtpo8xDEO3x+n4DaQ4by47z1Y+wz9",
  "C5tpNvhBTCwoWJGWcU/bcvB6eUcOijyPsmVVx8C+y4Vc0KPM3exF",
  "IdHvMGNeMQOvPKY2PwjaUK3XYs8aaxLMevdYkSe5wTCF2k8h",
  "AJ9VDY2WEZ1ZHa2gM7RzPKv7SRERWBOhXMFTXUznZcpvZlaVb4ZUhsy3mGr0qy1OrswGya5G9Rnb",
  "AUZ2MEQbNHW4PpbNUHUwUngzaBT+hGUAjInPmDbqtAmvu5Ed4pnU7PMw7gNI+a/j/rKq",
  "BhkmFGRiSg2FUAEPZ4bfarbUkFqvn3ocqlgLsgF3vAdnvEmVvzry31P139lo4bcl52bR8W5I",
  "MXZgTBE7ZP1le18kfqL6g10Xg3Bsq3POuYxP0dbq3tDC4yJN/3s6",
  "DEPKEoJILgCLMnIoQAZJQBZoV4+gXBsDYZDTZZnyftLYlOBNoHGuuV4d4E72",
  "DcHiE5dYHBQkOFwlPQE2SblZS8dkbe2pe3f4e98Mn+57wgM1xFab3obr5tK18aEA",
  "RE60ViebYueAZQpJbSwOccILdP4udv/BlZEcuHjp7sAP",
  "AO6mBYbBB2A2Ez4iGwaCHeywPyYyWM8uXNm5ZeLVf7uNilOdn6SkoY2Fsrgtto4lygtw2SF0+YrD",
  "Bm2bGVZ5HPjSJjxBUI2WUjV+VL1BZ3jweD9kjKDjjL40owuCvqDUwJMxwMQUx9B+0y4L1Tst2AiE8chR8q8c9rlp+Sxb+9Eo/atB",
  "DrcCFIyTHucbINVAWIhlYv/ueT/BfcgQfzvri74qnDWSpP8YxZUI0UVR0eBw2lQT4c+L4nH2/mNM",
  "BSkMBvulKMPOKgCZL2qeMCXUMyCwVPFBYYhHZRXLtRIov3LxwlGfx5jp1zhF78lj9fiv+B9F+L25",
  "EGjvIXSaVH+TVrN7YOgOcITikLnlkY5woIoUsMdNtJVGxGHaxeC8z1i35I8h53n+",
  "QjuuUakPXUZ9Ylq/apSTeu0Qhi2ciIUgoAbhpASoxirIyAXFyQmn1d1612WK3p9R+528",
  "CoVLG21tJcehL/VFQhddVb2jWheia1ASbQrciBBOj9pTmE03oLXfpxWFrdeuxBgDyzuD001H1kAs6Zhh+B9T+uKa",
  "COs7SZFQTd3BXPIfZVyfatgedt2pn70KvPi5xqgWzhnu3Ntt4u7O+c+h",
  "RRmzUKX8XqzhZ8lOatjJeiAGepCxh8EllH9+l7+4mo8vpwjLuASwzv/t0FiQ1cdG2ktk4RXw7lYh8x9r/8D9",
  "ID5RO8O7Pde/PyI8QuKXRpdbZk4DaXati4lmm3kQoEf71Dzj6V0T8FR3+jZg/z3K",
  "DjUoNFnxWp3zlzKUtRRxvFlFwIBP2R0W5TFk7azu",
  "CWUYF5aTXDdnYtL7amzQgqEOkQsToKJ6wXOn0ND89noF/vPz",
  "BPF+Di5uI1DwMUjlWRShZWenizh8r3/mtQESud5Qu/wDvmUpwCCv1xvb5wtv6JAJ6izI8zn9",
  "CrSVFMZoFhpkNIDYOwM4WjAIYpoFZTsVZ6Yrj0JutpmX2FAM/Ebt",
  "EQThQQyTQthsUi7FU4ATWLNxW53NW9R0ZQI4Zjn5bt36dcYpd3rJkzohlBx3n9VwrJCssmSws4zQwArNx3A51Cx61JD73F+x",
  "DOrTDRNpJdDVQgjKXsltkVxKmqeVupoCvtdCwlhg2CIn4NUy5iBd9znj94wg/GsI/9lj",
  "AJ6wBYfsBoMoB+DYHQ9yKhZBM7POXSUjZ+VraNSao3z3pN2BuWs4xPBhygiG6JKO8lyi+k7G",
  "CRYKFn3tHRarNKE3PO5VTUTnUneOcQBomZZQnRVMtrAKwI0pzIHa2TV86hqb7gKj7zd0",
  "ElhEFTjRFqVQH/HrSgzgXuXSaxkjbkokdbJ1gQKxgrl0kVsVlAFdmOlZmlY1n3l3r6iSvEjwwzzT5dGl55r48G0T8O1u+Z6u/wxZ",
  "B/FnFeAuGHNtJbHTOLtLQY3sY7+BZ1Yka/M8eeW6mlM1nNwQu1lWvYATwXyAzKr7",
  "EEB2GyvKLWNsNJk+NcWPN8+5QzXOWkhuYxL7bl8icP7KcsYHhoH9ij4xrfyYyWkq1tga2Ghy6Czo6cnB",
  "A3oGDcE9Dw4VSmVQX6vNcC+Ldd6PgZBjvTHVwgKQw8U+x9h/zczqzsQJ2RTX6c25",
  "ErmHEwa7MD2KUIS+VqOOV0bUXRA0YKC+YubbZRvZa34tcUPrcWwNd5sgjKDukXSwmr/7nSrppuh5rTWI2FG245vg7laW8pVN+aA3+s8+",
  "ALcWBYYcD3NsHsktM8w0NmYiXhjTYr2MazOYfmIJkIhnuDxgvx/V31Fs9Ilh+mcs+qGw",
  "IYVpIcvWQcNpSZhGUB8SVnFpbxupfVwBgh/8kSRMkx5EmBS5qyzCwMNvynzEzneU0lM/3NiG6IGB6kgv7hsJ8JGo/tsi",
  "AHd1INSbKwtAO25RRObNSiVGUWqOWUPmZE7Pn5Hd010C32u24c7m+DC8/mKn/pMo/yS/",
  "CRpcFMPgGtVDG5ELIm6TKa4jOXY2OyxFdQMvhbbgjXn2jxMckLxammubrCuR3uiD",
  "BOoFDOuKHWIAJLB9NbyrOQ6TRhcwbN+xfSoyqPEt",
  "C9lkGF5XN/DFQAhGSmzuSrl5apPuk34CmPS7m3v7oIuHy++u3p6s",
  "AC1ZB/sqCEEQHRB0OOBROl87RaR3ZfjXdZIhgb6fpVC5sCfawMj7x6QJ9K53",
  "DhZFDioWDuaEHLFRM+SaNuLDQi9ARJjGSCjlXPF6Xmelatd5cxd0fjBbjJuZoZCDxyKG065A6uhF8K2c9kDz+aKE+n+S",
  "G7AxUKVXVonPXNsyYkWOab9shsc1jqb8l78ToNB7tqkAuAQL4RVL7jNv853E+bY3+/Us",
  "FNECFUH+HZs0QdmQSj2sTMxTfFKwhIfskwzpndKwuyqN/Msz",
  "BUDNCS46EQUxJs+ATvyGVUBJYPmqZS2MZmUJbCQIcReidRuVlzHvo4dNvL0W3ZeP7axJ+NV6+23e",
  "BRaRHNwRHestSSrnXDbCaE8vj79dlMjWoKHVphtRu0pQ8PAr9snc96zd",
  "DkJNPqoRP0TNQF8EVKeYYLFnYprhdz9BfNLEgif1mjoq3NhW3rcS5COv5wrK8dJx8j00/gLN",
  "EDgnEgWvHjVkKC3EQg/+Q+DwT1rFUvTvVHu7W/UlXjVKZTl+iH3jim0MkM+enY7ro8o3xC/E88Gp",
  "BAUJDhpgEc8OLe7mM/0ATgeBVHPCVuPvbNYBeXTwe0TlgySXn9TLrRk+smQLxjET1gBR1qiA6+K48p1b+brq",
  "FZQIUoaia2PIe9tri+FbjeeCn1KYo921p8N8srWJ1N0J1ttP2I1M5KuF9yU8",
  "BoKDIQVnPA81QWhiZSqJZckl1Ozl1O9U/a8h",
  "CRVlFZ9tHLkMIvLnToq3UnbpYqziZUXyfHeBnRSnoY/nvgME2eJW70iz8Q2t+O3g+681",
  "AF5qB018Ku/5MwbvRh8XYCwPkiYAvEhLyXjC4VsP55pT",
  "AcWfFwBIKgdULoHhN9ueOBLXUVfGVp/BWugOZPwbaEEffFEkigz9ngx6vuMCwFYs01wM2BR42Xnk3s947NyB9Eim+AZ0+v/4",
  "A5ehEcw7WkfJZVLWbSm/bl59cuLLfVjRfmN0hRGek56ErJmBw7uP16tu3/cy+/vB",
  "A1F8DcCYHBRuH54TOFIZRqp3anlJdd3qdnNxeTRdn+0xrzSLwgHrxify12ss2mIu4riN+PaH+yWn",
  "EUJNHZZ0SEibSqWGTMxLUp8IW/3xa7eDa9YKbPNTehvShGsWibBvjjBGmr9Wn/R4qDBxtxqhyaMU1avy415W5LwV6KfW8pSo",
  "AJWhBYV3BprpM/GJOiqPPuBrTmhbUiYdYrznZeGLZ2fPhQvhhmKdj6Ednxvor7VAt6i2vbe/vxOb0Zfd8F12+Yl5",
  "BT9sKpseKyjnLqDwQxiESDeOVCSiVbpPXGeMXzfibFTUccnlc/h7eA1fhdjwjaYBkx2fk7i4nS0Nn6M4n7H7okY4thhF0qwX2U098TeL8/7c",
  "BlO3B/2kGkQeGqPEcDIwgYpnivcDu7Mqy9OB1KUD3txF57K563iG/mIC/yQa",
  "BpPFCEP/CRm3Fkj5PvkZYDIaZRSBbAr9fGmKl/kGwei46KNO+Lxv",
  "VCJxWV4VYASGdT0bhLfkmBvKm+kJpyp6qFFUtihdv0dS14QA2IAz",
  "AQZYDVqoNHVcN3k0TCIGZwbFbxNGcmIAi+pAmpkLoAWXrZ0It2GswUKt3KzZ7Wd18Y7r/7di",
  "HJEDHh/CJxX7OmJFTB2QWpuMZbfvZebtgpzmiK18kYxxpVAUqdRTrT6u6ZcX+HUd",
  "BrNPCCQQDnK5QYzIR0OtUEJmYnWdYtVNZVKhn+ZropLepLDlt4K9xKGpyHRDzDgg01rl3bTq5xc4+n7t",
  "DcHaEtsVK1A7PRAjPsZPVokqaTj5l75umlvwmmKUnUVzqiFmrfx0u2dJ7jLK9BdC9bap",
  "BjllCYafC4iVJMIXSj0HYHvJZky5ZytSg1uQhIdHnBIPq6TVu33AvF66zb7I58sf68xM/hSA/zyA",
  "B42XCTIdDjPeJlotMQ5eOamHUA58VJ+ZVpxea9V3harFlzFKm4YZp1tUp8YTtxnywLNp2RvM7auk",
  "C5oPKJ1KQ929RzrHXDYdY3bcamuGjkIolBj2nD3hrD5rr48kxhJ52JiZ",
  "ATuuJHeJKbmQLCUrMKDYOuu9QF5fRj9rXD+pXdroYcqkaRJ4hiGRmjmFzAdv5wol8K+o+SaX",
  "EgUKMSHtUkjCbkkwcG2HmYzzsMcrt6aVwspw2E7C24dp4JqM",
  "GenbJFXLM/xbRkgyV/fhYu2zj8f1nkttrqOXu+ziwlboxIOb466b8A0o/bR6",
  "CiPMJhmNJvYQPc98SaryTLLWVqGQZVSpa2Mjdg2Yioyijg8fnEOAoDyVs7sQueGOzgQa94rW+FmN",
  "E3wAGUVOHYvIJqsQN0tQSlVtYDAapRFEtagGw3P9w/QN0tpa7+d98AJs",
  "ISPOOz11UuwBZUpD2TQy7fdV",
  "BIBeEfm2NDdjNWrfN3eNQBeMRovTYCtqYmNBbCznjKTen6msvEemvwTb+Z1k",
  "E5KhFyp8Gln4QHbFW/+8bSPJeSESevB0mlHrqBvpxXlX0ryG3s7T3uEa8Ehl",
  "F/6TGEaEGrMnIFbEeyqOfTL7kugmmc64rJjcupoB2Gco3cSn",
  "B8rvDb/zGCfdLAQ6c/MQlzhFrzPms7vnxjw0zVCLzsK/",
  "EX9nIcVsMDxAMRfTObnoRNuNUp5jVrn2WRokZ550a3zje1zpj1Gvlz13rIrF7qeG8xk2",
  "BYTSCoTzKyJCM9uPO3ObSm3TZeDmcWfYd4Vyej0Ahxd8iYdXwu7wxQIs1QcV5bjA+YjU",
  "ChXUCwH0DFryTAKsUOOmXspvZPyAeLoOg70Xkxz6mKBZmn5esJjCwMIlweGiyb6U0IrR0lH1072k4zOF",
  "AHYrATMpC2U7ELJdINNRRN/rSfjuVJrOWIZ2c/dxgGU2n8qask81vS3/xcbO4xBN54yF9JvG",
  "A99wBGjVF0LiMw6FNYcIRCdKTm+AUJnPUd2+XyejZQosZRPcavacfGjlmmpRtVnwzFco3uc563/r9rl3+LvK+xCd/3Xm/9su",
  "Dc/2ELGrM3uZTsA8T3I+UHm7a4clbwH3fDcopcEf28Jb7NCL7dSt7hxQ9TcF",
  "D3bNGUWoPbNnQ9W/XwLsZwYgasBNelXajrBCjy1Cj8gnnkZ2oATyrZxjsqv87cL89C0D+wkj",
  "GEZDI6waPFx/TyhnUrbJXHE2iMabpU9vskVRtVmvvQCPw68Zw9lu9g0Q9yNu",
  "BrKqB3atDZ0sF5FjJwe9OiHeSxDQg79ypyFep5yYp63Fq1voubIS4IGB5rbN6V2v8DCB+aE6/DOE/tGu",
  "AEr/BM8MIcB5JSd9UXJhfuj/l73JnUTOpuVo2hDM30l24IlP4RQB6Eo69Bad+R4H",
  "B9NbEHRXHNaWK/vuN5LyQkIbiKbisEustyHiw1ryxex80CKu1Xd/58p6/a5N",
  "FANHP3HAUCk7U0/iXlunZSxCbCK+fIFLj+ztoGcvpaApyFHYyQFl2miz7ar/7q+C+NQw",
  "AE9gD/cfF0MHQ1evXQ0fdYNkfWPHiVnKl/Ikoe8NowrPwoRax86lyoTN3nxs4T5c4VR08KCh",
  "B9jqD/mXHCucKbjrLoTkUT65WtCIWyS+X64aZx6Ga8dHhS+0jVUVqYzMtuU2ujYbxm0Ax9kq3/qg4EtM5+4Y6b906nXi86nN",
  "C07HEQ7JEgRlFnkYGBDGGlFLJnHhKm4SLStNM0ngTTjrUs8vV3ZWiad+n5olxUJhx4TOyRtK3sBj6cE+/43L",
  "BssQHLSqHtM3PZz+Q0BCWZt6Yu0OkOvJnkrI0JLd4HFS66hC+bmg",
  "BvsUDNDkEWFpKqImLzOCSTpRUDP+UdBhVfO+Zl1Na2J+g/aEnV00ottY4KG19C8D",
  "CzCDE5eWMDHHO0k1RDTXR+jzSHupSUSVUDlAUprgVjAKYFuFaTGRfka2l8CWmfFHoJuc0IO64x3S5+Lg+NWV",
  "J66uQ0UiSMAXS1viZUSofJmxoH+VpkBat3aOx1Y62TON5Pi57OME7XeL9GpO+OyW/GUp",
  "DGoqDNt9FFK0H94fPknXQPg2Qzp9Q/V+YCrFbssGj7q/mlRG1Y5i1vj27NMQ",
  "IS2gMpniPwKsZzbsbEbWjWHUmV2dsg3rt8Ks4BMG65Nl9mof",
  "Af/DAyOsC1xgFz+/HcJpLGg4RyrMTCuKTEg6TFEOacsPcqh+n7KLvBWnyTwbzsnT2GaD2QDI62GQ",
  "AN4uBuN2BuolHTwQM7kMQ0LvSTPhYwV0nmMurnI7rufArzNBwB1hxETqxVE4xjuP1do61ivs2Xy33sxb5Nv4+PU9/7Z+",
  "Hy4WIE6sK8V1NCR+OdsaQjgRVrlRXsWUaYcOa3nMbNGJcnshfygthBzEinizi1gAnXWatYO/uflPyCoD5Bd29Edp",
  "At3LCF4mDwK4GV0PJsQQTi6pUFGmZ/F0iK2AkJSClv/IngIyswCw1tbc2DqE5/tG",
  "HqsrKPsSLEKoSKSkW9rOXsY3ZV0OfLIXfX4ekxxVlEWjqxMe0wXQ2Uvz+QT8/ul0",
  "CxZlLAM9MuoOXJgHbuNsexaJkPzepqrUxsIOySBPy18G2tUf",
  "BbNDHIVDMZ77NHZZRS1GesbFi6jRjJCBmmmsq7BDvYnT3IDn3LPb5OZ461m97RbW+w/4",
  "BDloB8GLDXN+I1R+MvZLOnVzQ20MRR0ASIQDScfaTTUcTr+XXbribVQVcFeKx7WayOj0ye+t2H7p2LIE7w59",
  "BpsHKoxEK9LEO4GeXOoXXwJHYx3aep6Yn41brJ9gsZlwtAvgw9wT0OMk56No77qg/87k"]

end Text
end DeclSearch
